import RouteTable.Proofs.Template.Grammar
import RouteTable.Proofs.Wildcard.Size
import RouteTable.Route.Compiler
/-!
# Outcomes of a declaration

The compiled form that is kept from one method to the next makes no difference:
`RouteCompiler.compile_eq_map`, every joined template is compiled by itself.
-/

namespace RouteTable

open RouteTable.Template

namespace RouteCompiler

variable {c : RouteCompiler} {d : Declaration}

theorem compileFrom_eq_map {last : Option (String × Compiled)}
    (hlast : ∀ template compiled, last = some (template, compiled) →
      compiled = c.compileTemplate template) (expansions : List (String × Method)) :
    c.compileFrom d last expansions =
      expansions.map fun (template, method) =>
        outcome d template method (c.compileTemplate template) := by
  induction expansions generalizing last with
  | nil => rfl
  | cons expansion expansions ih =>
      obtain ⟨template, method⟩ := expansion
      have hrest : c.compileFrom d (some (template, c.compileTemplate template)) expansions = _ :=
        ih fun _ _ heq => by cases heq; rfl
      rw [List.map_cons, ← hrest]
      cases last with
      | none => rfl
      | some previous =>
          obtain ⟨previous, compiled⟩ := previous
          obtain rfl := hlast _ _ rfl
          have hkept : (if previous = template then c.compileTemplate previous
              else c.compileTemplate template) = c.compileTemplate template := by
            split
            · rename_i heq
              rw [heq]
            · rfl
          change outcome d template method (if previous = template then _ else _) ::
            c.compileFrom d (some (template, if previous = template then _ else _)) _ = _
          rw [hkept]

theorem compile_eq_map (c : RouteCompiler) (d : Declaration) :
    c.compile d = d.expand.map fun (template, method) =>
      outcome d template method (c.compileTemplate template) :=
  compileFrom_eq_map (by simp) d.expand

/-- The entries of a declaration are its templates, compiled, with its tags. -/
theorem ok_mem_compile_iff {e : RouteEntry} :
    .ok e ∈ c.compile d ↔
      (e.rawTemplate, e.method) ∈ d.expand ∧
        c.compileTemplate e.rawTemplate = .ok (e.resolvedPath, e.matcher) ∧
        e.groupTags = d.groupTags ∧ e.routeTags = d.routeTags ∧
        e.parameterTags = d.parameterTags := by
  rw [compile_eq_map, List.mem_map]
  constructor
  · rintro ⟨⟨template, method⟩, hmem, houtcome⟩
    change outcome d template method (c.compileTemplate template) = .ok e at houtcome
    cases hcompiled : c.compileTemplate template with
    | ok compiled =>
        rw [hcompiled] at houtcome
        cases houtcome
        exact ⟨hmem, hcompiled, rfl, rfl, rfl⟩
    | error source => simp [hcompiled, outcome] at houtcome
  · rintro ⟨hmem, hcompiled, hgroup, hroute, hparameter⟩
    refine ⟨_, hmem, ?_⟩
    dsimp only
    rw [hcompiled, outcome, ← hgroup, ← hroute, ← hparameter]

theorem error_mem_compile {e : CompileError} (h : .error e ∈ c.compile d) :
    (e.rawTemplate, e.method) ∈ d.expand ∧ e.scope = d.scope ∧
      c.compileTemplate e.rawTemplate = .error e.source := by
  rw [compile_eq_map, List.mem_map] at h
  obtain ⟨⟨template, method⟩, hmem, houtcome⟩ := h
  change outcome d template method (c.compileTemplate template) = .error e at houtcome
  cases hcompiled : c.compileTemplate template with
  | ok compiled => simp [hcompiled, outcome] at houtcome
  | error source =>
      rw [hcompiled] at houtcome
      cases houtcome
      exact ⟨hmem, rfl, hcompiled⟩

theorem exists_compileTemplate {template path text : String}
    (hresolve : resolve c.properties template = .ok path)
    (hfragment : Wildcard.fragment path = .ok text) (hlength : path.toList.length ≤ 10000) :
    ∃ matcher, c.compileTemplate template = .ok (path, matcher) := by
  obtain ⟨matcher, hmatcher⟩ := Wildcard.exists_compile_of_fragment hfragment hlength
  exact ⟨matcher, bind_eq_ok_iff.2 ⟨path, hresolve, bind_eq_ok_iff.2 ⟨matcher, hmatcher, rfl⟩⟩⟩

/-- A template fails if it cannot be resolved, or if its path has no matcher. -/
theorem compileTemplate_eq_error {template : String} {source : TemplateError}
    (h : c.compileTemplate template = .error source) :
    resolve c.properties template = .error source ∨
      ∃ path, resolve c.properties template = .ok path ∧ Wildcard.compile path = .error source := by
  rcases bind_eq_error_iff.1 h with hresolve | ⟨path, hresolve, h⟩
  · exact .inl hresolve
  · rcases bind_eq_error_iff.1 h with hmatcher | ⟨_, _, h⟩
    · exact .inr ⟨path, hresolve, hmatcher⟩
    · cases h

end RouteCompiler

end RouteTable
