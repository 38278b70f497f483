import RouteTable.Proofs.Path.Meet
/-!
# Characters of joined segments

Joining puts nothing but separators into a path.
-/

namespace RouteTable.Path

variable {sep c : Char}

theorem mem_of_mem_trimEnd {cs : List Char} (h : c ∈ trimEnd sep cs) : c ∈ cs := by
  rw [trimEnd, List.mem_reverse] at h
  exact List.mem_reverse.1 ((List.dropWhile_sublist _).subset h)

theorem mem_of_mem_trimStart {cs : List Char} (h : c ∈ trimStart sep cs) : c ∈ cs :=
  (List.dropWhile_sublist _).subset h

theorem mem_of_mem_meet {left right : List Char} (h : c ∈ meet sep left right) :
    c ∈ left ∨ c = sep ∨ c ∈ right := by
  unfold meet at h
  split at h
  · exact .inr (.inr h)
  · split at h
    · exact .inl h
    · rcases List.mem_append.1 h with h | h
      · exact .inl (mem_of_mem_trimEnd h)
      · rcases List.mem_cons.1 h with h | h
        · exact .inr (.inl h)
        · exact .inr (.inr (mem_of_mem_trimStart h))

theorem mem_of_mem_foldl_meet {left : List Char} {texts : List (List Char)}
    (h : c ∈ texts.foldl (meet sep) left) : c ∈ left ∨ c = sep ∨ ∃ text ∈ texts, c ∈ text := by
  induction texts generalizing left with
  | nil => exact .inl h
  | cons text texts ih =>
      rcases ih h with h | h | ⟨text', htext', h⟩
      · rcases mem_of_mem_meet h with h | h | h
        · exact .inl h
        · exact .inr (.inl h)
        · exact .inr (.inr ⟨text, by simp, h⟩)
      · exact .inr (.inl h)
      · exact .inr (.inr ⟨text', List.mem_cons_of_mem _ htext', h⟩)

theorem mem_of_mem_joinWith {segments : List String} (h : c ∈ (joinWith sep segments).toList) :
    c = sep ∨ ∃ segment ∈ segments, c ∈ segment.toList := by
  rw [toList_joinWith] at h
  rcases mem_of_mem_foldl_meet h with h | h | ⟨text, htext, h⟩
  · simp at h
  · exact .inl h
  · obtain ⟨segment, hsegment, rfl⟩ := List.mem_map.1 htext
    exact .inr ⟨segment, hsegment, h⟩

end RouteTable.Path
