import RouteTable.Manifest.Variables
import RouteTable.Proofs.Route.Compiler
/-!
# Builds in two environments

The environment comes into a build only through the values of placeholders.  Two
sources that agree on the keys of a template give it the same path, and so on upwards:
the same outcomes to a declaration, and the same build to a list of them.  A source
asks the environment for a key only if the key has no configured value and can be the
name of a variable.  Main statement: `compile_eq_of_agree`.
-/

namespace RouteTable

theorem Template.mem_keys {template : String} {pieces : List Segment}
    (h : segments true template = .ok pieces) {key default : List Char}
    (hmem : .placeholder key default ∈ pieces) : String.ofList key ∈ keys template := by
  rw [keys, h]
  exact List.mem_filterMap.2 ⟨_, hmem, rfl⟩

theorem Template.resolve_congr {left right : PropertySource} {template : String}
    (h : ∀ key ∈ keys template, left key = right key) :
    resolve left template = resolve right template := by
  rw [resolve, resolve]
  cases hpieces : segments true template with
  | error => rfl
  | ok pieces =>
      have hvalue : ∀ piece ∈ pieces, piece.value left = piece.value right := by
        intro piece hpiece
        cases piece with
        | literal | pathVariable => rfl
        | placeholder key default =>
            rw [Segment.value, Segment.value, h _ (mem_keys hpieces hpiece)]
      simp only [Except.map, List.flatMap_congr hvalue]

namespace RouteCompiler

variable {left right : RouteCompiler}

theorem compile_congr {d : Declaration}
    (h : ∀ expansion ∈ d.expand, ∀ key ∈ Template.keys expansion.1,
      left.properties key = right.properties key) :
    left.compile d = right.compile d := by
  rw [compile_eq_map, compile_eq_map]
  refine List.map_congr_left fun expansion hexpansion => ?_
  have hresolve := Template.resolve_congr (h expansion hexpansion)
  simp only [compileTemplate, hresolve]

theorem build_congr_of_accepts {ds : List Declaration}
    (haccepts : ∀ d ∈ ds, left.accepts d = right.accepts d)
    (h : ∀ d ∈ ds, left.accepts d = true → ∀ expansion ∈ d.expand,
      ∀ key ∈ Template.keys expansion.1, left.properties key = right.properties key) :
    left.build ds = right.build ds := by
  have hstep : ∀ (b : Build), ∀ d ∈ ds, b.addDeclaration left d = b.addDeclaration right d := by
    intro b d hd
    rw [Build.addDeclaration, Build.addDeclaration, ← haccepts d hd]
    split
    · rename_i haccepted
      rw [compile_congr (h d hd haccepted)]
    · rfl
  rw [build, build, List.foldl_ext _ _ _ hstep]

theorem build_congr {ds : List Declaration} (hscopes : left.baseScopes = right.baseScopes)
    (h : ∀ d ∈ ds, left.accepts d = true → ∀ expansion ∈ d.expand,
      ∀ key ∈ Template.keys expansion.1, left.properties key = right.properties key) :
    left.build ds = right.build ds :=
  build_congr_of_accepts (fun d _ => by rw [accepts, accepts, hscopes]) h

end RouteCompiler

/-- A property source asks the environment at two names only, and for no key with a
configured value. -/
theorem Properties.source_congr {p : Properties} {env₁ env₂ : Environment} {key : String}
    (h : p.useEnvironment = true → p.values.get? key = none → Environment.isName key = true →
      env₁ key = env₂ key ∧
        env₁ (Environment.snakeCase key) = env₂ (Environment.snakeCase key)) :
    p.source env₁ key = p.source env₂ key := by
  have hget : p.get? env₁ key = p.get? env₂ key := by
    rw [get?, get?]
    split
    · rfl
    · rename_i hnone
      split
      · rename_i hasks
        obtain ⟨huse, hname⟩ := Bool.and_eq_true_iff.1 hasks
        obtain ⟨hkey, hsnake⟩ := h huse hnone hname
        rw [hkey, hsnake]
      · rfl
  funext default
  rw [source, source, hget]

namespace Manifest

/-- The keys whose values the environment can give: those of accepted declarations,
without a configured value, that can stand in the name of a variable. -/
def environmentKeys (m : Manifest) : List String :=
  let accepted := m.declarations.filter (m.compiler .none).accepts
  (accepted.flatMap fun d => d.expand.flatMap fun (template, _) => Template.keys template).filter
    fun key => m.properties.get? key = none && '=' ∉ key.toList && '\x00' ∉ key.toList

theorem mem_environmentKeys {m : Manifest} {key : String} :
    key ∈ m.environmentKeys ↔
      (∃ d ∈ m.declarations, (m.compiler .none).accepts d = true ∧
        ∃ expansion ∈ d.expand, key ∈ Template.keys expansion.1) ∧
      m.properties.get? key = none ∧ '=' ∉ key.toList ∧ '\x00' ∉ key.toList := by
  simp only [environmentKeys, List.mem_filter, List.mem_flatMap, Bool.and_eq_true,
    decide_eq_true_eq, and_assoc]

/-- Two environments that agree on the keys that are open to them, each under both of
its names, give the same build.  Without the environment any two do. -/
theorem compile_eq_of_agree (m : Manifest) (env₁ env₂ : Environment) :
    (m.useEnvironment = false → m.compile env₁ = m.compile env₂) ∧
    (m.useEnvironment = true →
      (∀ key ∈ m.environmentKeys, env₁ key = env₂ key ∧
        env₁ (Environment.snakeCase key) = env₂ (Environment.snakeCase key)) →
      m.compile env₁ = m.compile env₂) := by
  constructor
  · intro huse
    refine RouteCompiler.build_congr rfl fun d _ _ expansion _ key _ => ?_
    refine Properties.source_congr fun hasks => ?_
    exact absurd (huse.symm.trans hasks) (by decide)
  · intro _ hagree
    refine RouteCompiler.build_congr rfl fun d hd haccepts expansion hexpansion key hkey => ?_
    refine Properties.source_congr fun _ hnone hname => hagree key ?_
    obtain ⟨⟨-, hequals⟩, hnul⟩ : (key ≠ "" ∧ '=' ∉ key.toList) ∧ '\x00' ∉ key.toList := by
      simpa [Environment.isName] using hname
    exact mem_environmentKeys.2
      ⟨⟨d, hd, haccepts, expansion, hexpansion, hkey⟩, hnone, hequals, hnul⟩

/-- Of the keys of this manifest only `port` is open to the environment: `user` has a value,
`a=b` cannot be the name of a variable, and `home` belongs to a group that is skipped. -/
def portManifest : Manifest where
  scopes := ["app"]
  properties := .ofList [("user", "ada")]
  groups := [
    { scope := "app.web"
      paths := ["/$\x7buser\x7d", "/$\x7ba=b:x\x7d"]
      routes := [{ paths := ["$\x7bport:80\x7d", "$\x7bopen"], methods := [.get] }] },
    { scope := "other", routes := [{ paths := ["/$\x7bhome\x7d"] }] }]

theorem compile_portManifest :
    portManifest.compile (fun name => if name = "PORT" then some "8080" else none) =
      portManifest.compile fun name =>
        if name = "PORT" then some "8080" else if name = "port" then none else some "set" := by
  have hkeys : portManifest.environmentKeys = ["port", "port"] := by decide +kernel
  refine (compile_eq_of_agree portManifest _ _).2 rfl fun key hkey => ?_
  obtain rfl : key = "port" := by simpa [hkeys] using hkey
  exact ⟨by decide, by decide⟩

end Manifest

end RouteTable
