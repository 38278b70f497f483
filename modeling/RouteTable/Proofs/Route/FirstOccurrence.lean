import RouteTable.Route.Table
/-!
# First occurrences

Of the entries for one route, a table keeps the one that came first.  What a list of
entries leaves is `firstOccurrences`; how it splits over two lists is
`firstOccurrences_append`, on which tables and builds rest.
-/

namespace RouteTable

theorem any_same_iff {es : List RouteEntry} {e : RouteEntry} :
    es.any (·.same e) = true ↔ e.identity ∈ es.map RouteEntry.identity := by
  simp [RouteEntry.same]

/-- The entries without those whose route comes earlier in the list. -/
def firstOccurrences : List RouteEntry → List RouteEntry
  | [] => []
  | e :: es => e :: (firstOccurrences es).filter fun later => !e.same later

theorem any_same_firstOccurrences (es : List RouteEntry) (e : RouteEntry) :
    (firstOccurrences es).any (·.same e) = es.any (·.same e) := by
  induction es with
  | nil => rfl
  | cons first es ih =>
      rw [firstOccurrences, List.any_cons, List.any_cons, List.any_filter, ← ih]
      by_cases hfirst : first.same e = true
      · simp [hfirst]
      · congr 1
        rw [Bool.eq_iff_iff, List.any_eq_true, List.any_eq_true]
        simp only [RouteEntry.same, decide_eq_true_eq, Bool.and_eq_true,
          Bool.not_eq_eq_eq_not, Bool.not_true, decide_eq_false_iff_not] at hfirst ⊢
        refine exists_congr fun later => and_congr_right fun _ => ?_
        exact ⟨fun h => h.2, fun h => ⟨fun heq => hfirst (heq.trans h), h⟩⟩

theorem mem_firstOccurrences_iff {es : List RouteEntry} {e : RouteEntry} :
    e ∈ firstOccurrences es ↔ es.find? (·.same e) = some e := by
  induction es with
  | nil => simp [firstOccurrences]
  | cons first es ih =>
      rw [firstOccurrences, List.mem_cons, List.mem_filter, ih, List.find?_cons]
      cases hfirst : first.same e with
      | true => simp [eq_comm]
      | false =>
          have hne : e ≠ first := by
            rintro rfl
            simp [RouteEntry.same] at hfirst
          simp [hne]

theorem nodup_identity_firstOccurrences (es : List RouteEntry) :
    ((firstOccurrences es).map RouteEntry.identity).Nodup := by
  induction es with
  | nil => exact List.nodup_nil
  | cons first es ih =>
      rw [firstOccurrences, List.map_cons, List.nodup_cons]
      refine ⟨fun hmem => ?_, ih.sublist (List.filter_sublist.map _)⟩
      obtain ⟨later, hlater, heq⟩ := List.mem_map.1 hmem
      simp [RouteEntry.same, heq] at hlater

theorem mem_identity_firstOccurrences {es : List RouteEntry} {i : RouteEntry.Identity} :
    i ∈ (firstOccurrences es).map RouteEntry.identity ↔ i ∈ es.map RouteEntry.identity := by
  constructor
  · intro h
    obtain ⟨e, -, rfl⟩ := List.mem_map.1 h
    rwa [← any_same_iff, any_same_firstOccurrences, any_same_iff] at h
  · intro h
    obtain ⟨e, -, rfl⟩ := List.mem_map.1 h
    rwa [← any_same_iff, any_same_firstOccurrences, any_same_iff]

theorem firstOccurrences_eq_self {es : List RouteEntry}
    (h : (es.map RouteEntry.identity).Nodup) : firstOccurrences es = es := by
  induction es with
  | nil => rfl
  | cons first es ih =>
      rw [List.map_cons, List.nodup_cons] at h
      rw [firstOccurrences, ih h.2, List.filter_eq_self.2]
      intro later hlater
      have hne : first.identity ≠ later.identity := fun heq =>
        h.1 (heq ▸ List.mem_map_of_mem hlater)
      simp [RouteEntry.same, hne]

/-- Of two lists, the second one only adds routes that the first one lacks. -/
theorem firstOccurrences_append (es fs : List RouteEntry) :
    firstOccurrences (es ++ fs) =
      firstOccurrences es ++ (firstOccurrences fs).filter fun f => !es.any (·.same f) := by
  induction es with
  | nil => exact (List.filter_eq_self.2 fun _ _ => rfl).symm
  | cons first es ih =>
      rw [List.cons_append, firstOccurrences, firstOccurrences, ih, List.filter_append,
        List.filter_filter, List.cons_append]
      simp only [List.any_cons, Bool.not_or]

theorem firstOccurrences_append_singleton (es : List RouteEntry) (e : RouteEntry) :
    firstOccurrences (es ++ [e]) =
      if es.any (·.same e) then firstOccurrences es else firstOccurrences es ++ [e] := by
  rw [firstOccurrences_append, firstOccurrences, firstOccurrences, List.filter_nil]
  cases h : es.any (·.same e) <;> simp [h]

theorem firstOccurrences_append_of_forall {es fs : List RouteEntry}
    (h : ∀ f ∈ fs, es.any (·.same f) = true) :
    firstOccurrences (es ++ fs) = firstOccurrences es := by
  rw [firstOccurrences_append, List.filter_eq_nil_iff.2, List.append_nil]
  intro f hf
  have hfind := mem_firstOccurrences_iff.1 hf
  simp [h f (List.mem_of_find?_eq_some hfind)]

theorem firstOccurrences_append_left (es fs : List RouteEntry) :
    firstOccurrences (firstOccurrences es ++ fs) = firstOccurrences (es ++ fs) := by
  simp only [firstOccurrences_append, any_same_firstOccurrences,
    firstOccurrences_eq_self (nodup_identity_firstOccurrences es)]

theorem firstOccurrences_append_right (es fs : List RouteEntry) :
    firstOccurrences (es ++ firstOccurrences fs) = firstOccurrences (es ++ fs) := by
  simp only [firstOccurrences_append,
    firstOccurrences_eq_self (nodup_identity_firstOccurrences fs)]

end RouteTable
