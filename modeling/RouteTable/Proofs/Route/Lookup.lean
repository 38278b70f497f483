import Mathlib.Data.List.Find
import RouteTable.Route.Table
/-!
# Lookups by path

The route for a path and a method is the first one with that method among all
routes for the path: `lookups_agree`.
-/

namespace RouteTable

namespace RoutingTable

theorem nodup_entries (t : RoutingTable) : t.entries.Nodup :=
  List.Pairwise.of_map RouteEntry.identity (fun _ _ hne heq => hne (congrArg _ heq)) t.distinct

variable {t : RoutingTable} {path : String} {e : RouteEntry}

theorem mem_findByPath :
    e ∈ t.findByPath path ↔
      e ∈ t.entries ∧ (e.isExact path = true ∨ e.accepts path = true) := by
  unfold findByPath
  simp only [List.mem_append, List.mem_filter, Bool.and_eq_true, Bool.not_eq_true']
  cases e.isExact path <;> simp

theorem nodup_findByPath (t : RoutingTable) (path : String) : (t.findByPath path).Nodup := by
  refine List.nodup_append.2 ⟨t.nodup_entries.filter _, t.nodup_entries.filter _, ?_⟩
  rintro e hexact _ hpattern rfl
  rw [List.mem_filter] at hexact hpattern
  simp [hexact.2] at hpattern

/-- The second search of `findExact` does not leave exact entries out.  It is made
where there are none with the method. -/
theorem findExact_eq_find? (t : RoutingTable) (path : String) (method : Method) :
    t.findExact path method = (t.findByPath path).find? (·.method = method) := by
  have hswap : t.entries.find? (fun e => e.isExact path && e.method = method) =
      t.entries.find? fun e => e.method = method && e.isExact path :=
    List.find?_congr fun e _ => Bool.and_comm ..
  rw [findExact, findByPath, List.find?_append, List.find?_filter, List.find?_filter]
  simp only [Bool.decide_and, Bool.decide_eq_true, hswap]
  cases hexact : t.entries.find? fun e => e.method = method && e.isExact path with
  | some e => rfl
  | none =>
      rw [List.find?_eq_none] at hexact
      refine List.find?_congr fun e he => ?_
      have hnot := hexact e he
      cases hmethod : decide (e.method = method) with
      | true => simp_all
      | false => simp

/-- For a path, all entries that are exact or match are found, each once, the exact
ones first and both parts in the order of the table.  The first of them with a method is
what is found for the method too. -/
theorem lookups_agree (t : RoutingTable) (path : String) :
    (t.findByPath path).Nodup ∧
    (∀ e, e ∈ t.findByPath path ↔
      e ∈ t.entries ∧ (e.isExact path = true ∨ e.accepts path = true)) ∧
    (∃ literals patterns, t.findByPath path = literals ++ patterns ∧
      literals.Sublist t.entries ∧ patterns.Sublist t.entries ∧
      (∀ e ∈ literals, e.isExact path = true) ∧
      ∀ e ∈ patterns, e.isExact path = false ∧ e.accepts path = true) ∧
    ∀ method,
      t.findExact path method = (t.findByPath path).find? (·.method = method) ∧
      (t.findExact path method = none ↔ ∀ e ∈ t.findByPath path, e.method ≠ method) := by
  refine ⟨t.nodup_findByPath path, fun e => mem_findByPath, ?_, fun method => ?_⟩
  · refine ⟨_, _, rfl, List.filter_sublist, List.filter_sublist, ?_, ?_⟩
    · intro e he
      exact (List.mem_filter.1 he).2
    · intro e he
      simpa using (List.mem_filter.1 he).2
  · refine ⟨t.findExact_eq_find? path method, ?_⟩
    rw [findExact_eq_find?, List.find?_eq_none]
    simp only [decide_eq_true_eq]

end RoutingTable

end RouteTable
