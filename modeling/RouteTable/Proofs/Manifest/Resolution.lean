import RouteTable.Manifest.Validation
import RouteTable.Proofs.Path.Grouping
import RouteTable.Proofs.Path.Join
import RouteTable.Proofs.Route.Build
import RouteTable.Proofs.Route.Compiler
import RouteTable.Proofs.Template.Substitution
import RouteTable.Proofs.Wildcard.Size
/-!
# Templates of a manifest without problems

If a manifest has no problems, all placeholders of its joined templates can be
resolved, and only the resolved paths can be malformed or too large: `compile_of_errors_eq_nil`.
-/

namespace RouteTable

open RouteTable.Pattern
open RouteTable.Template
open RouteTable.Text
open RouteTable.Wildcard

/-! ## Checked templates -/

namespace Manifest

theorem exists_mem_zipIdx {α : Type} {x : α} {xs : List α} (h : x ∈ xs) :
    ∃ i, (x, i) ∈ xs.zipIdx := by
  obtain ⟨i, hi⟩ := List.mem_iff_getElem?.1 h
  exact ⟨i, List.mem_zipIdx_iff_getElem?.2 hi⟩

theorem isTemplate_of_templateErrors_eq_nil {templates : List String}
    (h : templateErrors templates = []) {template : String} (hmem : template ∈ templates) :
    IsTemplate true template.toList := by
  obtain ⟨i, hi⟩ := exists_mem_zipIdx hmem
  have hnone := List.filterMap_eq_nil_iff.1 h _ hi
  dsimp only at hnone
  split at hnone
  · rename_i hcheck
    exact check_eq_ok_iff.1 hcheck
  · cases hnone

def paths (m : Manifest) : List String :=
  m.groups.flatMap fun group => group.paths ++ group.routes.flatMap (·.paths)

theorem Route.isTemplate_of_errors_eq_nil {group index : Nat} {route : Route}
    (h : route.errors group index = []) : ∀ path ∈ route.paths, IsTemplate true path.toList := by
  rw [Route.errors, List.map_eq_nil_iff] at h
  exact fun path => isTemplate_of_templateErrors_eq_nil h

theorem Group.isTemplate_of_errors_eq_nil {index : Nat} {group : Group}
    (h : group.errors index = []) :
    ∀ path ∈ group.paths ++ group.routes.flatMap (·.paths), IsTemplate true path.toList := by
  simp only [Group.errors, List.append_eq_nil_iff, List.map_eq_nil_iff] at h
  obtain ⟨⟨-, hpaths⟩, hroutes⟩ := h
  intro path hpath
  rcases List.mem_append.1 hpath with hpath | hpath
  · exact isTemplate_of_templateErrors_eq_nil hpaths hpath
  · obtain ⟨route, hroute, hpath⟩ := List.mem_flatMap.1 hpath
    obtain ⟨i, hi⟩ := exists_mem_zipIdx hroute
    exact Route.isTemplate_of_errors_eq_nil (List.flatMap_eq_nil_iff.1 hroutes _ hi) path hpath

variable {m : Manifest}

theorem isTemplate_of_errors_eq_nil (h : m.errors = []) :
    ∀ path ∈ m.paths, IsTemplate true path.toList := by
  simp only [errors, List.append_eq_nil_iff] at h
  intro path hpath
  obtain ⟨group, hgroup, hpath⟩ := List.mem_flatMap.1 hpath
  obtain ⟨i, hi⟩ := exists_mem_zipIdx hgroup
  exact Group.isTemplate_of_errors_eq_nil (List.flatMap_eq_nil_iff.1 h.1.2 _ hi) path hpath

/-! ## Joined templates -/

theorem mem_templatesOrRoot {template : String} {templates : List String}
    (h : template ∈ Declaration.templatesOrRoot templates) :
    template = "" ∨ template ∈ templates := by
  unfold Declaration.templatesOrRoot at h
  split at h
  · exact .inl (List.mem_singleton.1 h)
  · exact .inr (List.mem_eraseDups.1 h)

/-- A joined template consists of paths of the manifest. -/
theorem exists_paths_of_mem_expand {d : Declaration} (hd : d ∈ m.declarations)
    {expansion : String × Method} (h : expansion ∈ d.expand) :
    ∃ templates, expansion.1 = Path.join templates ∧
      ∀ template ∈ templates, template = "" ∨ template ∈ m.paths := by
  obtain ⟨group, hgroup, hd⟩ := List.mem_flatMap.1 hd
  obtain ⟨route, hroute, rfl⟩ := List.mem_map.1 hd
  obtain ⟨front, hfront, h⟩ := List.mem_flatMap.1 h
  obtain ⟨back, hback, h⟩ := List.mem_flatMap.1 h
  obtain ⟨method, -, rfl⟩ := List.mem_map.1 h
  have hpaths {path : String} (hpath : path ∈ group.paths ++ group.routes.flatMap (·.paths)) :
      path ∈ m.paths := List.mem_flatMap.2 ⟨group, hgroup, hpath⟩
  refine ⟨[front, back], rfl, ?_⟩
  simp only [List.mem_cons, List.not_mem_nil, or_false, forall_eq_or_imp, forall_eq]
  constructor
  · exact (mem_templatesOrRoot hfront).imp id fun hmem => hpaths (List.mem_append_left _ hmem)
  · exact (mem_templatesOrRoot hback).imp id fun hmem =>
      hpaths (List.mem_append_right _ (List.mem_flatMap.2 ⟨route, hroute, hmem⟩))

theorem isTemplate_of_mem_expand (hvalid : m.errors = []) {d : Declaration}
    (hd : d ∈ m.declarations) {expansion : String × Method} (h : expansion ∈ d.expand) :
    IsTemplate true expansion.1.toList := by
  obtain ⟨templates, heq, htemplates⟩ := exists_paths_of_mem_expand hd h
  rw [heq]
  refine IsTemplate.join fun template hmem => ?_
  rcases htemplates template hmem with rfl | hpath
  · exact .nil
  · exact isTemplate_of_errors_eq_nil hvalid template hpath

theorem sentinel_not_mem_of_mem_expand (hpaths : ∀ path ∈ m.paths, sentinel ∉ path.toList)
    {d : Declaration} (hd : d ∈ m.declarations) {expansion : String × Method}
    (h : expansion ∈ d.expand) : sentinel ∉ expansion.1.toList := by
  obtain ⟨templates, heq, htemplates⟩ := exists_paths_of_mem_expand hd h
  rw [heq]
  intro hmem
  rcases Path.mem_of_mem_joinWith hmem with hslash | ⟨template, htemplate, hmem⟩
  · exact absurd hslash (by decide)
  · rcases htemplates template htemplate with rfl | hpath
    · simp at hmem
    · exact hpaths template hpath hmem

/-! ## Rejected templates -/

theorem exists_declaration_of_mem_rejected {env : Environment} {e : CompileError}
    (h : e ∈ (m.compile env).rejected) :
    ∃ d ∈ m.declarations, (e.rawTemplate, e.method) ∈ d.expand ∧
      (m.compiler env).compileTemplate e.rawTemplate = .error e.source := by
  rw [compile, rejected_build, mem_errorsOf] at h
  obtain ⟨d, hd, h⟩ := List.mem_flatMap.1 h
  obtain ⟨hexpand, -, hsource⟩ := RouteCompiler.error_mem_compile h
  exact ⟨d, (List.mem_filter.1 hd).1, hexpand, hsource⟩

theorem exists_path_of_mem_rejected (hvalid : m.errors = []) {env : Environment}
    {e : CompileError} (h : e ∈ (m.compile env).rejected) :
    ∃ path, resolve (m.propertySource env) e.rawTemplate = .ok path ∧
      Wildcard.compile path = .error e.source := by
  obtain ⟨d, hd, hexpand, hsource⟩ := exists_declaration_of_mem_rejected h
  rcases RouteCompiler.compileTemplate_eq_error hsource with hresolve | ⟨path, hpath, hcompile⟩
  · have htemplate := isTemplate_of_mem_expand hvalid hd hexpand
    obtain ⟨path, hpath⟩ := htemplate.exists_resolve (m.propertySource env)
    cases hresolve.symm.trans hpath
  · exact ⟨path, hpath, hcompile⟩

/-- No placeholder of a joined template has a value with a brace or the sentinel. -/
def HasPlainValues (m : Manifest) (env : Environment) : Prop :=
  ∀ d ∈ m.declarations, ∀ expansion ∈ d.expand, ∀ segs, segments true expansion.1 = .ok segs →
    ∀ key default, .placeholder key default ∈ segs →
      ∀ c ∈ (m.propertySource env (String.ofList key) (String.ofList default)).toList,
        c ≠ '{' ∧ c ≠ '}' ∧ c ≠ sentinel

theorem isTooLarge_of_mem_rejected (hvalid : m.errors = []) {env : Environment}
    (hvalues : m.HasPlainValues env) (hpaths : ∀ path ∈ m.paths, sentinel ∉ path.toList)
    {e : CompileError} (he : e ∈ (m.compile env).rejected) :
    ∃ path, resolve (m.propertySource env) e.rawTemplate = .ok path ∧ IsTooLarge path := by
  obtain ⟨d, hd, hexpand, -⟩ := exists_declaration_of_mem_rejected he
  obtain ⟨path, hpath, hcompile⟩ := exists_path_of_mem_rejected hvalid he
  refine ⟨path, hpath, ?_⟩
  rcases compile_eq_error_iff.1 hcompile with hfragment | ⟨matcher, hmatcher, hfits, -⟩
  · obtain ⟨segs, hsegs, heq⟩ := resolve_eq_ok_iff.1 hpath
    have htext : path.toList = segs.flatMap (Segment.value (m.propertySource env)) := by
      rw [← heq, String.toList_ofList]
    have hplain := hvalues d hd _ hexpand segs (segments_eq_ok_iff.2 hsegs)
    have hbraces : ∃ resolved, segments false path = .ok resolved := by
      simp only [segments_eq_ok_iff, htext]
      exact hsegs.isTemplate_resolved fun key default hmem =>
        ⟨fun hopen => (hplain key default hmem _ hopen).1 rfl,
          fun hclose => (hplain key default hmem _ hclose).2.1 rfl⟩
    have hsentinel : sentinel ∉ path.toList := by
      rw [htext]
      intro hmem
      rcases hsegs.mem_of_mem_resolved hmem with hmem | ⟨key, default, hplaceholder, hmem⟩
      · exact sentinel_not_mem_of_mem_expand hpaths hd hexpand hmem
      · exact (hplain key default hplaceholder _ hmem).2.2 rfl
    cases hfragment.symm.trans (fragment_eq_ok_iff.2 ⟨hbraces, hsentinel, rfl⟩)
  · exact ⟨matcher, hmatcher, hfits⟩

/-- A manifest without problems only fails where values bring braces or the sentinel into a path,
or where a path is too large.  Without these, nothing is rejected, and strictness does not
matter. -/
theorem compile_of_errors_eq_nil (m : Manifest) (hvalid : m.errors = []) (env : Environment) :
    (∀ d ∈ m.declarations, ∀ expansion ∈ d.expand,
      ∃ path, resolve (m.propertySource env) expansion.1 = .ok path) ∧
    (∀ e ∈ (m.compile env).rejected, ∃ path,
      resolve (m.propertySource env) e.rawTemplate = .ok path ∧
      ((∃ fault, fragment path = .error e.source ∧ e.source = .malformed path fault ∧
          fault.kind ∈ [.unclosedVariable, .emptyVariable, .nestedBrace, .unmatchedBrace,
            .reservedCharacter]) ∨
        ∃ matcher, Wildcard.matcher path = .ok matcher ∧ matcher.fits = false ∧
          e.source = .invalidPattern matcher.fragment PatternError.tooLarge.message)) ∧
    (m.HasPlainValues env → (∀ path ∈ m.paths, sentinel ∉ path.toList) →
      (∀ e ∈ (m.compile env).rejected, ∃ path,
        resolve (m.propertySource env) e.rawTemplate = .ok path ∧ IsTooLarge path) ∧
      ((∀ d ∈ m.declarations, ∀ expansion ∈ d.expand, ∀ path,
          resolve (m.propertySource env) expansion.1 = .ok path → ¬ IsTooLarge path) →
        (m.compile env).rejected = [] ∧
        ∃ table, ∀ strict, { m with strict }.buildTable env = .ok table)) := by
  refine ⟨?_, ?_, fun hvalues hpaths => ⟨?_, fun hsizes => ?_⟩⟩
  · intro d hd expansion hexpansion
    exact (isTemplate_of_mem_expand hvalid hd hexpansion).exists_resolve _
  · intro e he
    obtain ⟨path, hpath, hcompile⟩ := exists_path_of_mem_rejected hvalid he
    refine ⟨path, hpath, ?_⟩
    rcases compile_eq_error_iff.1 hcompile with hfragment | hsize
    · obtain ⟨fault, hsource, hkind⟩ := fragment_eq_error hfragment
      exact .inl ⟨fault, hfragment, hsource, hkind⟩
    · exact .inr hsize
  · exact fun e => isTooLarge_of_mem_rejected hvalid hvalues hpaths
  · have hrejected : (m.compile env).rejected = [] := by
      refine List.eq_nil_iff_forall_not_mem.2 fun e he => ?_
      obtain ⟨d, hd, hexpand, -⟩ := exists_declaration_of_mem_rejected he
      obtain ⟨path, hpath, hsize⟩ := isTooLarge_of_mem_rejected hvalid hvalues hpaths he
      exact hsizes d hd _ hexpand path hpath hsize
    refine ⟨hrejected, (m.compile env).table, fun strict => ?_⟩
    cases strict with
    | false => rfl
    | true =>
        change (m.compile env).strict = .ok (m.compile env).table
        rw [Build.strict, if_pos hrejected]

/-- Two paths that join into `/price/$/{id}/${size:10}`: where they meet, a dollar stands
before a path variable. -/
def dollarManifest : Manifest where
  groups := [{
    paths := ["/price/$/"]
    routes := [{ paths := ["\x7bid\x7d/$\x7bsize:10\x7d"], methods := [.get] }] }]

theorem errors_dollarManifest : dollarManifest.errors = [] := by
  simp [errors, dollarManifest, Group.errors, Route.errors, templateErrors, baseScopeErrors,
    logLevelErrors, check, segments, segmentsFrom, closing, pathVariable, placeholder,
    keyAndDefault, offsetOf?, consLiteral, Except.map, mapError_ok, bind, Except.bind, pure,
    Except.pure]
  decide

theorem expand_dollarManifest {d : Declaration} (hd : d ∈ dollarManifest.declarations) :
    d.expand = [("/price/$/\x7bid\x7d/$\x7bsize:10\x7d", .get)] := by
  obtain rfl := List.mem_singleton.1 hd
  decide

theorem segments_dollarManifest : segments true "/price/$/\x7bid\x7d/$\x7bsize:10\x7d" =
    .ok [.literal "/price/$/".toList, .pathVariable "id".toList, .literal "/".toList,
      .placeholder "size".toList "10".toList] := by
  simp [segments, segmentsFrom, closing, pathVariable, placeholder, keyAndDefault, offsetOf?,
    consLiteral, Except.map, mapError_ok, bind, Except.bind, pure, Except.pure]

theorem size_dollarManifest : dollarManifest.propertySource .none "size" "10" = "10" := by
  simp [propertySource, Properties.source, Properties.get?, dollarManifest, PropertyMap.empty,
    PropertyMap.get?, Environment.none]

theorem compile_dollarManifest :
    dollarManifest.errors = [] ∧ (dollarManifest.compile .none).rejected = [] := by
  have hvalues : dollarManifest.HasPlainValues .none := by
    intro d hd expansion hexpansion segs hsegs key default hplaceholder
    rw [expand_dollarManifest hd] at hexpansion
    obtain rfl := List.mem_singleton.1 hexpansion
    rw [segments_dollarManifest] at hsegs
    cases hsegs
    obtain ⟨rfl, rfl⟩ : key = "size".toList ∧ default = "10".toList := by
      simpa using hplaceholder
    rw [String.ofList_toList, String.ofList_toList, size_dollarManifest]
    simp [sentinel]
  have hsizes (d : Declaration) (hd : d ∈ dollarManifest.declarations)
      (expansion : String × Method) (hexpansion : expansion ∈ d.expand) (path : String)
      (hpath : resolve (dollarManifest.propertySource .none) expansion.1 = .ok path) :
      ¬ IsTooLarge path := by
    rw [expand_dollarManifest hd] at hexpansion
    obtain rfl := List.mem_singleton.1 hexpansion
    rw [resolve, segments_dollarManifest] at hpath
    cases hpath
    rintro ⟨m, hm, hfits⟩
    have hlength := fits_of_length_le hm
    simp [Segment.value, size_dollarManifest, hfits] at hlength
  exact ⟨errors_dollarManifest, (((compile_of_errors_eq_nil dollarManifest errors_dollarManifest
    .none).2.2 hvalues (by decide)).2 hsizes).1⟩

def pathManifest (path : String) : Manifest where
  groups := [{ routes := [{ paths := [path], methods := [.get] }] }]

section

variable {path : String}

theorem expand_pathManifest {d : Declaration} (hd : d ∈ (pathManifest path).declarations) :
    d.expand = [(path, .get)] := by
  obtain rfl := List.mem_singleton.1 hd
  have hjoin : Path.join ["", path] = path := Path.joinWith_empty_left ..
  simp [Declaration.expand, Group.declaration, Declaration.templatesOrRoot, hjoin,
    Declaration.methodsOrAll, List.eraseDups_cons]

theorem errors_pathManifest (h : IsBody path.toList) : (pathManifest path).errors = [] := by
  obtain ⟨segs, hsegs, -⟩ := Parses.of_isBody true h
  have hcheck : check path = .ok () := check_eq_ok_iff.2 ⟨segs, hsegs⟩
  have hlevel : isLogLevel "info" = true := by decide
  simp [errors, pathManifest, Group.errors, Route.errors, templateErrors, baseScopeErrors,
    logLevelErrors, hcheck, hlevel]

theorem hasPlainValues_pathManifest (h : IsBody path.toList) (env : Environment) :
    (pathManifest path).HasPlainValues env := by
  intro d hd expansion hexpansion segs hsegs key default hplaceholder
  rw [expand_pathManifest hd] at hexpansion
  obtain rfl := List.mem_singleton.1 hexpansion
  obtain ⟨segs', hsegs', hnone⟩ := Parses.of_isBody true h
  cases hsegs.symm.trans (segments_eq_ok_iff.2 hsegs')
  exact absurd hplaceholder (hnone key default)

theorem exists_mem_rejected_pathManifest (h : IsBody path.toList) (hsize : IsTooLarge path)
    (env : Environment) : ∃ e ∈ ((pathManifest path).compile env).rejected,
      ∃ fragment, e.source = .invalidPattern fragment PatternError.tooLarge.message := by
  obtain ⟨m, hm, hfits⟩ := hsize
  obtain ⟨segs, hsegs, hnone⟩ := Parses.of_isBody true h
  let source := TemplateError.invalidPattern m.fragment PatternError.tooLarge.message
  have hresolve : resolve ((pathManifest path).propertySource env) path = .ok path :=
    resolve_eq_self (segments_eq_ok_iff.2 hsegs) hnone
  have hcompile : Wildcard.compile path = .error source :=
    compile_eq_error_iff.2 (.inr ⟨m, hm, hfits, rfl⟩)
  have hcompiled : ((pathManifest path).compiler env).compileTemplate path = .error source :=
    bind_eq_error_iff.2 (.inr ⟨path, hresolve, bind_eq_error_iff.2 (.inl hcompile)⟩)
  let d := Group.declaration {} { paths := [path], methods := [.get] }
  have hd : d ∈ (pathManifest path).declarations := List.mem_singleton_self _
  refine ⟨⟨"", path, .get, source⟩, ?_, m.fragment, rfl⟩
  rw [compile, rejected_build, mem_errorsOf]
  refine List.mem_flatMap.2 ⟨d, List.mem_filter.2 ⟨hd, rfl⟩, ?_⟩
  rw [RouteCompiler.compile_eq_map, expand_pathManifest hd, List.map_singleton]
  dsimp only
  rw [hcompiled]
  exact List.mem_singleton_self _

end

/-- A path of thirty thousand question marks is rejected, although nothing is wrong with it. -/
theorem compile_questions :
    (pathManifest (questions 30000)).errors = [] ∧
      (pathManifest (questions 30000)).HasPlainValues .none ∧
      (∀ path ∈ (pathManifest (questions 30000)).paths, sentinel ∉ path.toList) ∧
      ∃ e ∈ ((pathManifest (questions 30000)).compile .none).rejected, ∀ template fault,
        e.source ≠ .malformed template fault := by
  have hbody := isBody_questions 30000
  have hsize : IsTooLarge (questions 30000) := isTooLarge_questions (by decide)
  refine ⟨errors_pathManifest hbody, hasPlainValues_pathManifest hbody .none, ?_, ?_⟩
  · simpa [paths, pathManifest] using sentinel_not_mem_questions 30000
  · obtain ⟨e, he, fragment, hsource⟩ := exists_mem_rejected_pathManifest hbody hsize .none
    exact ⟨e, he, fun template fault h => by cases hsource.symm.trans h⟩

end Manifest

end RouteTable
