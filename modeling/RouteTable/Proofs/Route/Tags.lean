import RouteTable.Proofs.Route.Build
import RouteTable.Proofs.Route.Compiler
/-!
# Tags of a built table

The tags of groups and routes are part of what makes a route, so that no declaration
loses them to another one.  The tags of parameters are not: they are those of the
declaration that had the route first.  Main statement: `tag_queries_build`.
-/

namespace RouteTable

namespace RoutingTable

variable {t : RoutingTable} {tag : Tag} {e : RouteEntry}

theorem mem_findByGroupTag : e ∈ t.findByGroupTag tag ↔ e ∈ t.entries ∧ tag ∈ e.groupTags := by
  simp [findByGroupTag, RouteEntry.hasGroupTag]

theorem mem_findByRouteTag : e ∈ t.findByRouteTag tag ↔ e ∈ t.entries ∧ tag ∈ e.routeTags := by
  simp [findByRouteTag, RouteEntry.hasRouteTag]

theorem mem_findByParameterTag :
    e ∈ t.findByParameterTag tag ↔ e ∈ t.entries ∧ ∃ tags ∈ e.parameterTags, tag ∈ tags := by
  simp [findByParameterTag, RouteEntry.hasParameterTag]

theorem mem_findByTag :
    e ∈ t.findByTag tag ↔ e ∈ t.findByGroupTag tag ∨ e ∈ t.findByRouteTag tag := by
  rw [findByTag, List.mem_filter, Bool.or_eq_true, and_or_left, findByGroupTag, List.mem_filter,
    findByRouteTag, List.mem_filter]

theorem nodup_identity_findByTag (t : RoutingTable) (tag : Tag) :
    ((t.findByTag tag).map RouteEntry.identity).Nodup :=
  t.distinct.sublist (List.filter_sublist.map _)

end RoutingTable

namespace RouteCompiler

/-- Whether one of the entries of a declaration is for the same route. -/
def produces (c : RouteCompiler) (e : RouteEntry) (d : Declaration) : Bool :=
  (entriesOf (c.compile d)).any (·.same e)

variable {c : RouteCompiler} {ds : List Declaration} {e : RouteEntry}

theorem entriesOf_outcomes (c : RouteCompiler) (ds : List Declaration) :
    entriesOf (c.outcomes ds) =
      (ds.filter c.accepts).flatMap fun d => entriesOf (c.compile d) := by
  rw [entriesOf, outcomes, List.filterMap_flatMap]
  rfl

theorem mem_entriesOf_outcomes :
    e ∈ entriesOf (c.outcomes ds) ↔ ∃ d ∈ ds, c.accepts d = true ∧ .ok e ∈ c.compile d := by
  simp only [entriesOf_outcomes, List.mem_flatMap, List.mem_filter, mem_entriesOf, and_assoc]

theorem mem_entriesOf_of_mem_entries_build (h : e ∈ (c.build ds).table.entries) :
    e ∈ entriesOf (c.outcomes ds) := by
  rw [entries_build, mem_firstOccurrences_iff] at h
  exact List.mem_of_find?_eq_some h

theorem exists_same_mem_entries_build (h : e ∈ entriesOf (c.outcomes ds)) :
    ∃ kept ∈ (c.build ds).table.entries, kept.identity = e.identity := by
  have hmem := mem_identity_firstOccurrences.2 (List.mem_map_of_mem h)
  rw [← entries_build] at hmem
  exact List.mem_map.1 hmem

/-- Tags of groups and routes survive: an entry that carries some of them stands in the
table if and only if a declaration that carries them has it. -/
theorem exists_mem_entries_build_iff (carries : List Tag → List Tag → Prop)
    (method : Method) (template : String) :
    (∃ e ∈ (c.build ds).table.entries, carries e.groupTags e.routeTags ∧ e.method = method ∧
      e.rawTemplate = template) ↔
    ∃ d ∈ ds, c.accepts d = true ∧ carries d.groupTags d.routeTags ∧
      (template, method) ∈ d.expand ∧ ∃ compiled, c.compileTemplate template = .ok compiled := by
  constructor
  · rintro ⟨e, he, hcarries, rfl, rfl⟩
    obtain ⟨d, hd, haccepts, hok⟩ :=
      mem_entriesOf_outcomes.1 (mem_entriesOf_of_mem_entries_build he)
    obtain ⟨hexpand, hcompiled, hgroup, hroute, -⟩ := ok_mem_compile_iff.1 hok
    rw [hgroup, hroute] at hcarries
    exact ⟨d, hd, haccepts, hcarries, hexpand, _, hcompiled⟩
  · rintro ⟨d, hd, haccepts, hcarries, hexpand, ⟨path, matcher⟩, hcompiled⟩
    have hok : .ok ⟨method, template, path, matcher, d.groupTags, d.routeTags, d.parameterTags⟩ ∈
        c.compile d :=
      ok_mem_compile_iff.2 ⟨hexpand, hcompiled, rfl, rfl, rfl⟩
    obtain ⟨kept, hkept, hsame⟩ :=
      exists_same_mem_entries_build (mem_entriesOf_outcomes.2 ⟨d, hd, haccepts, hok⟩)
    simp only [RouteEntry.identity, RouteEntry.Identity.mk.injEq] at hsame
    obtain ⟨hmethod, htemplate, -, -, hgroup, hroute⟩ := hsame
    rw [← hgroup, ← hroute] at hcarries
    exact ⟨kept, hkept, hcarries, hmethod, htemplate⟩

theorem exists_find?_of_find?_flatMap {α β : Type} {f : α → List β} {p : β → Bool} {xs : List α}
    {y : β} (h : (xs.flatMap f).find? p = some y) :
    ∃ x, xs.find? (fun x => (f x).any p) = some x ∧ y ∈ f x := by
  rw [List.find?_flatMap, List.findSome?_eq_some_iff] at h
  obtain ⟨front, x, back, rfl, hx, hfront⟩ := h
  have hmem := List.mem_of_find?_eq_some hx
  refine ⟨x, List.find?_eq_some_iff_append.2 ⟨?_, front, back, rfl, fun x hx => ?_⟩, hmem⟩
  · exact List.any_eq_true.2 ⟨y, hmem, List.find?_some hx⟩
  · simpa using hfront x hx

/-- An entry of the table comes from the first declaration that produces its route. -/
theorem exists_first_declaration (h : e ∈ (c.build ds).table.entries) :
    ∃ d, (ds.filter c.accepts).find? (c.produces e) = some d ∧ .ok e ∈ c.compile d := by
  rw [entries_build, mem_firstOccurrences_iff, entriesOf_outcomes] at h
  obtain ⟨d, hd, he⟩ := exists_find?_of_find?_flatMap h
  exact ⟨d, hd, (mem_entriesOf _ _).1 he⟩

end RouteCompiler

/-- What the tag queries find in a built table, in terms of its declarations.  Of the
tags of parameters only those count that the first declaration of a route has. -/
theorem tag_queries_build (c : RouteCompiler) (ds : List Declaration) (tag : Tag) :
    (∀ method template,
      (∃ e ∈ (c.build ds).table.findByGroupTag tag,
        e.method = method ∧ e.rawTemplate = template) ↔
      ∃ d ∈ ds, c.accepts d = true ∧ tag ∈ d.groupTags ∧ (template, method) ∈ d.expand ∧
        ∃ compiled, c.compileTemplate template = .ok compiled) ∧
    (∀ method template,
      (∃ e ∈ (c.build ds).table.findByRouteTag tag,
        e.method = method ∧ e.rawTemplate = template) ↔
      ∃ d ∈ ds, c.accepts d = true ∧ tag ∈ d.routeTags ∧ (template, method) ∈ d.expand ∧
        ∃ compiled, c.compileTemplate template = .ok compiled) ∧
    (((c.build ds).table.findByTag tag).Sublist (c.build ds).table.entries ∧
      (((c.build ds).table.findByTag tag).map RouteEntry.identity).Nodup ∧
      ∀ e, e ∈ (c.build ds).table.findByTag tag ↔
        e ∈ (c.build ds).table.findByGroupTag tag ∨
          e ∈ (c.build ds).table.findByRouteTag tag) ∧
    ((c.build ds).table.findByParameterTag tag).Sublist (c.build ds).table.entries ∧
    ∀ e ∈ (c.build ds).table.entries,
      ∃ d, (ds.filter c.accepts).find? (c.produces e) = some d ∧
        (e ∈ (c.build ds).table.findByParameterTag tag ↔ ∃ tags ∈ d.parameterTags, tag ∈ tags) := by
  refine ⟨fun method template => ?_, fun method template => ?_, ⟨List.filter_sublist,
    RoutingTable.nodup_identity_findByTag _ tag, fun e => RoutingTable.mem_findByTag⟩,
    List.filter_sublist, fun e he => ?_⟩
  · simp only [RoutingTable.mem_findByGroupTag, and_assoc]
    exact RouteCompiler.exists_mem_entries_build_iff (fun group _ => tag ∈ group) method template
  · simp only [RoutingTable.mem_findByRouteTag, and_assoc]
    exact RouteCompiler.exists_mem_entries_build_iff (fun _ route => tag ∈ route) method template
  · obtain ⟨d, hd, hok⟩ := RouteCompiler.exists_first_declaration he
    obtain ⟨-, -, -, -, hparameter⟩ := RouteCompiler.ok_mem_compile_iff.1 hok
    refine ⟨d, hd, ?_⟩
    rw [RoutingTable.mem_findByParameterTag, hparameter]
    exact and_iff_right he

end RouteTable
