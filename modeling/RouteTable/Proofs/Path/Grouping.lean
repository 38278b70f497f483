import RouteTable.Proofs.Path.Meet
/-!
# Joining in groups

Joining takes the concatenation of two lists of segments to the joining of two texts, so it
does not matter into which groups the segments are put.  Main statement:
`joinWith_homomorphism`.
-/

namespace RouteTable.Path

variable {sep : Char}

theorem foldl_meet (sep : Char) (left : List Char) (texts : List (List Char)) :
    texts.foldl (meet sep) left = meet sep left (texts.foldl (meet sep) []) := by
  have hassoc := @List.foldl_assoc _ (meet sep) _ texts left []
  rwa [meet_nil_right] at hassoc

theorem joinWith_singleton (sep : Char) (a : String) : joinWith sep [a] = a := by
  apply String.toList_injective
  rw [toList_joinWith]
  exact meet_nil_left sep a.toList

theorem toList_joinWith_pair (sep : Char) (a b : String) :
    (joinWith sep [a, b]).toList = meet sep a.toList b.toList := by
  rw [toList_joinWith, List.map_cons, List.map_singleton, List.foldl_cons, List.foldl_cons,
    meet_nil_left]
  rfl

theorem joinWith_append (sep : Char) (xs ys : List String) :
    joinWith sep (xs ++ ys) = joinWith sep [joinWith sep xs, joinWith sep ys] := by
  apply String.toList_injective
  rw [toList_joinWith_pair, toList_joinWith, toList_joinWith, toList_joinWith, List.map_append,
    List.foldl_append, foldl_meet]

theorem joinWith_pair {a b : String} (ha : a ≠ "") (hb : b ≠ "") :
    joinWith sep [a, b] = String.ofList (trimEnd sep a.toList) ++ String.singleton sep ++
      String.ofList (trimStart sep b.toList) := by
  have hleft : a.toList ≠ [] := fun h => ha (String.toList_eq_nil_iff.1 h)
  have hright : b.toList ≠ [] := fun h => hb (String.toList_eq_nil_iff.1 h)
  apply String.toList_injective
  rw [toList_joinWith_pair, meet_of_ne_nil hleft hright]
  simp

theorem joinWith_empty_left (sep : Char) (a : String) : joinWith sep ["", a] = a := by
  apply String.toList_injective
  rw [toList_joinWith_pair]
  exact meet_nil_left sep a.toList

theorem joinWith_empty_right (sep : Char) (a : String) : joinWith sep [a, ""] = a := by
  apply String.toList_injective
  rw [toList_joinWith_pair]
  exact meet_nil_right sep a.toList

theorem joinWith_assoc (sep : Char) (a b c : String) :
    joinWith sep [joinWith sep [a, b], c] = joinWith sep [a, joinWith sep [b, c]] := by
  apply String.toList_injective
  rw [toList_joinWith_pair, toList_joinWith_pair, toList_joinWith_pair, toList_joinWith_pair,
    meet_assoc]

theorem joinWith_map_joinWith (sep : Char) (groups : List (List String)) :
    joinWith sep (groups.map (joinWith sep)) = joinWith sep groups.flatten := by
  induction groups with
  | nil => rfl
  | cons group groups ih =>
      calc
        joinWith sep ((group :: groups).map (joinWith sep))
        _ = joinWith sep ([joinWith sep group] ++ groups.map (joinWith sep)) := by
            rw [List.map_cons, List.singleton_append]
        _ = joinWith sep [joinWith sep group, joinWith sep groups.flatten] := by
            rw [joinWith_append, joinWith_singleton, ih]
        _ = joinWith sep (group :: groups).flatten := by
            rw [← joinWith_append, List.flatten_cons]

/-- Joining is a homomorphism from lists of segments to texts, with the joining of two texts
as the operation and the empty text as its unit.  Two texts that are not empty have one
separator where they meet, in place of all those that ended the left one and began the right
one. -/
theorem joinWith_homomorphism (sep : Char) :
    joinWith sep [] = "" ∧
    (∀ xs ys, joinWith sep (xs ++ ys) = joinWith sep [joinWith sep xs, joinWith sep ys]) ∧
    (∀ a b, a ≠ "" → b ≠ "" →
      joinWith sep [a, b] = String.ofList (trimEnd sep a.toList) ++ String.singleton sep ++
        String.ofList (trimStart sep b.toList)) ∧
    (∀ cs, (∃ n, cs = trimEnd sep cs ++ List.replicate n sep) ∧
      (trimEnd sep cs).getLast? ≠ some sep) ∧
    (∀ cs, (∃ n, cs = List.replicate n sep ++ trimStart sep cs) ∧
      (trimStart sep cs).head? ≠ some sep) ∧
    (∀ a, joinWith sep ["", a] = a ∧ joinWith sep [a, ""] = a ∧ joinWith sep [a] = a) ∧
    (∀ a b c, joinWith sep [joinWith sep [a, b], c] = joinWith sep [a, joinWith sep [b, c]]) ∧
    ∀ groups : List (List String),
      joinWith sep (groups.map (joinWith sep)) = joinWith sep groups.flatten := by
  refine ⟨rfl, joinWith_append sep, ?_, ?_, ?_, ?_, joinWith_assoc sep,
    joinWith_map_joinWith sep⟩
  · intro a b ha hb
    exact joinWith_pair ha hb
  · intro cs
    exact ⟨exists_trimEnd_append sep cs, getLast?_trimEnd sep cs⟩
  · intro cs
    exact ⟨exists_append_trimStart sep cs, head?_trimStart sep cs⟩
  · intro a
    exact ⟨joinWith_empty_left sep a, joinWith_empty_right sep a, joinWith_singleton sep a⟩

/-- The right text consists of separators, and these take more than one byte. -/
theorem joinWith_homomorphism_accents :
    "aéé" ≠ "" ∧ "éé" ≠ "" ∧ joinWith 'é' ["aéé", "éé"] = "aé" ∧
      joinWith 'é' ["aéé", "éé", "b"] = "aéb" := by
  obtain ⟨-, happend, hpair, -⟩ := joinWith_homomorphism 'é'
  have hleft : "aéé" ≠ "" := by decide
  have hright : "éé" ≠ "" := by decide
  have hjoined : joinWith 'é' ["aéé", "éé"] = "aé" := by
    rw [hpair _ _ hleft hright]
    decide
  refine ⟨hleft, hright, hjoined, ?_⟩
  rw [show ["aéé", "éé", "b"] = ["aéé", "éé"] ++ ["b"] from rfl, happend, hjoined,
    joinWith_singleton, hpair _ _ (by decide) (by decide)]
  decide

end RouteTable.Path
