import RouteTable.Proofs.Manifest.Environment
/-!
# Scopes by their parts

A scope is well formed if its parts are names: `isWellFormed_iff`.  It lies within another one
if the parts of the other are the first of its own: `within_iff_parts`.  Containment is thus an
order.  Main statement: `scope_containment`, and
a base scope that lies within one that is there already makes no difference to a compiler.
-/

namespace RouteTable

namespace Scope

theorem parts_eq_splitOn (cs : List Char) : parts cs = cs.splitOn '.' := by
  induction cs with
  | nil => rw [parts, List.splitOn_nil]
  | cons c cs ih =>
      rw [parts, List.splitOn_cons_eq_if_modifyHead, ← ih]
      by_cases hc : c = '.'
      · simp [hc]
      · obtain ⟨part, rest, hparts⟩ := List.exists_cons_of_ne_nil (parts_ne_nil cs)
        simp [hc, hparts]

theorem parts_append_dot (xs ys : List Char) : parts (xs ++ '.' :: ys) = parts xs ++ parts ys := by
  simp only [parts_eq_splitOn, List.splitOn_append_cons_self]

theorem intercalate_parts (cs : List Char) : ['.'].intercalate (parts cs) = cs := by
  rw [parts_eq_splitOn, List.intercalate_splitOn]

theorem parts_injective {xs ys : List Char} (h : parts xs = parts ys) : xs = ys := by
  rw [← intercalate_parts xs, h, intercalate_parts]

theorem intercalate_append_cons {sep : List Char} {parts rest : List (List Char)}
    (hparts : parts ≠ []) (part : List Char) :
    sep.intercalate (parts ++ part :: rest) =
      sep.intercalate parts ++ sep ++ sep.intercalate (part :: rest) := by
  induction parts with
  | nil => exact absurd rfl hparts
  | cons first parts ih =>
      cases parts with
      | nil => simp [List.intercalate_cons_cons]
      | cons second parts =>
          simpa [List.intercalate_cons_cons] using ih (by simp)

/-- A scope as it should be written: names with dots between them, none of them empty. -/
def IsDotted (scope : String) : Prop :=
  ∃ names : List String, names ≠ [] ∧ scope = ".".intercalate names ∧
    ∀ name ∈ names, name ≠ "" ∧ ∀ c ∈ name.toList, c.isAlphanum ∨ c = '_' ∨ c = '-'

theorem isNameChar_iff {c : Char} : isNameChar c = true ↔ c.isAlphanum ∨ c = '_' ∨ c = '-' := by
  simp [isNameChar, or_assoc]

theorem all_isNameChar_iff {parts : List (List Char)} :
    (parts.all fun part => !part.isEmpty && part.all isNameChar) = true ↔
      ∀ part ∈ parts, part ≠ [] ∧ ∀ c ∈ part, c.isAlphanum ∨ c = '_' ∨ c = '-' := by
  simp [isNameChar_iff]

theorem parts_intercalate {names : List String} (hne : names ≠ [])
    (hdot : ∀ name ∈ names, '.' ∉ name.toList) :
    parts (".".intercalate names).toList = names.map String.toList := by
  rw [parts_eq_splitOn, String.toList_intercalate]
  exact List.splitOn_intercalate '.' (by simpa using hdot) (by simpa using hne)

theorem isWellFormed_iff {scope : String} : isWellFormed scope = true ↔ IsDotted scope := by
  rw [isWellFormed, all_isNameChar_iff]
  constructor
  · intro h
    refine ⟨(parts scope.toList).map String.ofList, ?_, ?_, ?_⟩
    · simpa using parts_ne_nil scope.toList
    · rw [← String.toList_inj, String.toList_intercalate]
      simpa [Function.comp_def] using (intercalate_parts scope.toList).symm
    · simpa using h
  · rintro ⟨names, hne, rfl, hnames⟩
    have hdot : ∀ name ∈ names, '.' ∉ name.toList := by
      intro name hname hmem
      exact absurd ((hnames name hname).2 '.' hmem) (by decide)
    rw [parts_intercalate hne hdot]
    simpa using hnames

theorem within_iff_append {scope base : String} :
    within scope base = true ↔
      scope = base ∨ ∃ rest, scope.toList = base.toList ++ '.' :: rest := by
  unfold within
  cases hrest : base.toList.isPrefixOf? scope.toList with
  | none =>
      have hnot (rest : List Char) : scope.toList ≠ base.toList ++ rest := by
        intro heq
        have hsome := List.isPrefixOf?_eq_some_iff_append_eq.2 heq.symm
        rw [hrest] at hsome
        cases hsome
      have hne : scope ≠ base := fun heq => hnot [] (by simp [heq])
      simp [hne, hnot]
  | some rest =>
      have hscope : scope.toList = base.toList ++ rest :=
        (List.isPrefixOf?_eq_some_iff_append_eq.1 hrest).symm
      have heq : scope = base ↔ rest = [] := by
        rw [← String.toList_inj, hscope, List.append_right_eq_self]
      cases rest with
      | nil => simp [heq]
      | cons c rest => simp [heq, hscope]

theorem within_iff_parts {scope base : String} :
    within scope base = true ↔ parts base.toList <+: parts scope.toList := by
  rw [within_iff_append]
  constructor
  · rintro (rfl | ⟨rest, hscope⟩)
    · exact List.prefix_refl _
    · rw [hscope, parts_append_dot]
      exact List.prefix_append _ _
  · rintro ⟨rest, hrest⟩
    cases rest with
    | nil =>
        rw [List.append_nil] at hrest
        exact .inl (String.toList_injective (parts_injective hrest.symm))
    | cons part rest =>
        -- The text of the parts that are left comes after a dot.
        refine .inr ⟨['.'].intercalate (part :: rest), ?_⟩
        have hscope := intercalate_parts scope.toList
        rw [← hrest, intercalate_append_cons (parts_ne_nil _), intercalate_parts] at hscope
        simpa using hscope.symm

theorem within_refl (scope : String) : within scope scope = true :=
  within_iff_parts.2 (List.prefix_refl _)

theorem within_trans {inner scope base : String} (hinner : within inner scope = true)
    (hscope : within scope base = true) : within inner base = true := by
  rw [within_iff_parts] at hinner hscope ⊢
  exact hscope.trans hinner

theorem within_antisymm {scope base : String} (hscope : within scope base = true)
    (hbase : within base scope = true) : scope = base := by
  rw [within_iff_parts] at hscope hbase
  exact String.toList_injective (parts_injective (hbase.eq_of_length_le hscope.length_le))

end Scope

namespace RouteCompiler

variable {c : RouteCompiler} {scopes : List String} {inner base : String}

theorem accepts_iff {d : Declaration} :
    c.accepts d = true ↔ c.baseScopes = [] ∨ ∃ base ∈ c.baseScopes, Scope.within d.scope base := by
  simp [accepts]

theorem accepts_cons_within (hscopes : scopes.Perm (inner :: c.baseScopes))
    (hbase : base ∈ c.baseScopes) (hinner : Scope.within inner base = true) (d : Declaration) :
    { c with baseScopes := scopes }.accepts d = c.accepts d := by
  have hne : scopes ≠ [] := by
    rintro rfl
    simpa using hscopes.length_eq
  have hne' : c.baseScopes ≠ [] := List.ne_nil_of_mem hbase
  rw [Bool.eq_iff_iff, accepts_iff, accepts_iff]
  simp only [hne, hne', false_or, hscopes.mem_iff, List.exists_mem_cons_iff]
  refine or_iff_right_of_imp fun hd => ⟨base, hbase, Scope.within_trans hd hinner⟩

end RouteCompiler

/-- Containment of scopes is the order of their parts by prefixes.  A compiler is not changed
by a further base scope that lies within one of its own, wherever it is put. -/
theorem scope_containment :
    (∀ scope base, Scope.within scope base = true ↔
      Scope.parts base.toList <+: Scope.parts scope.toList) ∧
    (∀ scope, Scope.within scope scope = true) ∧
    (∀ inner scope base, Scope.within inner scope = true → Scope.within scope base = true →
      Scope.within inner base = true) ∧
    (∀ scope base, Scope.within scope base = true → Scope.within base scope = true →
      scope = base) ∧
    ∀ (c : RouteCompiler) (scopes : List String) (inner base : String),
      scopes.Perm (inner :: c.baseScopes) → base ∈ c.baseScopes →
      Scope.within inner base = true →
        (∀ d, { c with baseScopes := scopes }.accepts d = c.accepts d) ∧
          ∀ ds, { c with baseScopes := scopes }.build ds = c.build ds := by
  refine ⟨fun _ _ => Scope.within_iff_parts, Scope.within_refl, fun _ _ _ => Scope.within_trans,
    fun _ _ => Scope.within_antisymm, fun c scopes inner base hscopes hbase hinner => ?_⟩
  have haccepts := RouteCompiler.accepts_cons_within hscopes hbase hinner
  exact ⟨haccepts, fun ds => RouteCompiler.build_congr_of_accepts (fun d _ => haccepts d)
    fun _ _ _ _ _ _ _ => rfl⟩

/-- The scope `.web` lies within the empty one, whose only part is empty, and `app.web` lies
within `app`, so that it can be left out. -/
theorem scope_containment_web :
    Scope.within ".web" "" = true ∧
      RouteCompiler.build ⟨fun _ default => default, ["lib", "app.web", "app"]⟩
          [{ scope := "app.web.admin" }, { scope := "app.website" }, { scope := "apple" }] =
        RouteCompiler.build ⟨fun _ default => default, ["app", "lib"]⟩
          [{ scope := "app.web.admin" }, { scope := "app.website" }, { scope := "apple" }] := by
  obtain ⟨hwithin, -, -, -, hbuild⟩ := scope_containment
  have hweb := (hwithin "app.web" "app").2 (by decide)
  have hscopes : ["lib", "app.web", "app"].Perm ["app.web", "app", "lib"] := by decide
  refine ⟨(hwithin ".web" "").2 (by decide), ?_⟩
  exact (hbuild ⟨fun _ default => default, ["app", "lib"]⟩ _ "app.web" "app" hscopes (by decide)
    hweb).2 _

end RouteTable
