import RouteTable.Pattern.Token
import RouteTable.Proofs.Pattern.Enclosed.Bracket
/-!
# Tokens in front of a closing bracket

Main statement: `keeps_first`, the first token of a text is the same with a closing bracket
behind the text, or it takes the bracket in.
-/

namespace RouteTable.Pattern

open RouteTable.Text

section

variable {back : List Char}

theorem keeps_groupName? (cs : List Char) :
    Keeps back (groupName? cs) (groupName? (cs ++ ')' :: back)) := by
  unfold groupName?
  simp only
  have hangle : ')' ≠ '>' := by decide
  rcases takeWhile_append_bracket hangle cs back with ⟨hname, hdrop⟩ | ⟨-, hname⟩
  · rw [hname, hdrop]
    generalize cs.drop (cs.takeWhile (· ≠ '>')).length = tail
    rcases tail with _ | ⟨c, tail⟩
    · exact .none
    · by_cases hc : c = '>'
      · subst hc
        simp only [List.cons_append]
        split
        · exact .pure _ tail
        · exact .none
      · simpa [hc] using Keeps.none
  · refine .cut fun name rest h => ?_
    rw [hname, List.length_append, List.drop_length_add_append, List.length_cons,
      List.drop_succ_cons] at h
    split at h
    · rename_i hdrop
      split at h
      · cases h
        exact (List.suffix_cons _ _).trans (hdrop ▸ List.drop_suffix _ _)
      · simp at h
    · simp at h

theorem switched?_sign {mode : Mode} {on : Bool} {seen cs : List Char} {c : Char}
    (hc : c = ':' ∨ c = ')') :
    switched? mode on seen (c :: cs) =
      if seen.head? = some '-' then none
      else some (if c = ':' then .openGroup .plain mode else .switch mode, cs) := by
  rw [switched?, switches?, if_pos hc]
  rcases hc with rfl | rfl
  all_goals
    split <;> simp_all

theorem switched?_letter {mode : Mode} {on : Bool} {seen cs : List Char} {c : Char}
    (hc : ¬(c = ':' ∨ c = ')')) :
    switched? mode on seen (c :: cs) =
      if seen.contains c then none
      else if c = '-' then switched? mode false (c :: seen) cs
      else (mode.switch? on c).bind fun mode => switched? mode on (c :: seen) cs := by
  rw [switched?, switches?, if_neg hc]
  by_cases hseen : seen.contains c = true
  · rw [if_pos hseen, if_pos hseen]
  · rw [if_neg hseen, if_neg hseen]
    by_cases hdash : c = '-'
    · rw [if_pos hdash, if_pos hdash]
      rfl
    · rw [if_neg hdash, if_neg hdash]
      cases mode.switch? on c <;> rfl

theorem keeps_switched? (mode : Mode) (on : Bool) (seen cs : List Char) :
    Keeps back (switched? mode on seen cs) (switched? mode on seen (cs ++ ')' :: back)) := by
  induction cs generalizing mode on seen with
  | nil =>
      rw [List.nil_append, switched?_sign (.inr rfl)]
      refine .cut fun token rest h => ?_
      split at h
      · simp at h
      · cases h
        exact List.suffix_refl _
  | cons c cs ih =>
      rw [List.cons_append]
      by_cases hc : c = ':' ∨ c = ')'
      · rw [switched?_sign hc, switched?_sign hc]
        split
        · exact .none
        · exact .pure _ cs
      · rw [switched?_letter hc, switched?_letter hc]
        split
        · exact .none
        · split
          · exact ih _ _ _
          · exact Keeps.check _ fun mode => ih mode on (c :: seen)

theorem opening?_eq_switched? {mode : Mode} {c : Char} {cs : List Char} (hangle : c ≠ '<')
    (hempty : c ≠ ')') (hname : ¬(c = 'P' ∧ cs.head? = some '<')) :
    opening? mode ('?' :: c :: cs) = switched? mode true [] (c :: cs) := by
  unfold opening?
  split
  case h_5 hother => exact absurd rfl (hother (c :: cs))
  all_goals
    rename_i heq
    cases heq
  · exact absurd ⟨rfl, rfl⟩ hname
  · exact absurd rfl hangle
  · exact absurd rfl hempty
  · rfl

theorem keeps_opening? (mode : Mode) (cs : List Char) :
    Keeps back (opening? mode cs) (opening? mode (cs ++ ')' :: back)) := by
  rcases cs with _ | ⟨c, cs⟩
  · exact .pure _ []
  · by_cases hmark : c = '?'
    · subst hmark
      rcases cs with _ | ⟨c, cs⟩
      · exact .none
      by_cases hangle : c = '<'
      · subst hangle
        exact (keeps_groupName? cs).map fun name => Token.openGroup (.named name) mode
      by_cases hempty : c = ')'
      · subst hempty
        exact .none
      by_cases hname : c = 'P' ∧ cs.head? = some '<'
      · obtain ⟨rfl, hhead⟩ := hname
        obtain ⟨rest, rfl⟩ := List.head?_eq_some_iff.1 hhead
        exact (keeps_groupName? rest).map fun name => Token.openGroup (.named name) mode
      · have hname' : ¬(c = 'P' ∧ (cs ++ ')' :: back).head? = some '<') := by
          rcases cs with _ | ⟨d, cs⟩
          · rintro ⟨-, ⟨⟩⟩
          · exact hname
        rw [List.cons_append, List.cons_append, opening?_eq_switched? hangle hempty hname,
          opening?_eq_switched? hangle hempty hname']
        exact keeps_switched? mode true [] (c :: cs)
    · simpa [opening?, hmark] using Keeps.pure _ (c :: cs)

theorem quantified_append (quantifier : Quantifier) (cs back : List Char) :
    quantified quantifier (cs ++ ')' :: back) =
      ((quantified quantifier cs).1, (quantified quantifier cs).2 ++ ')' :: back) := by
  simp only [quantified, Quantifier.preference_append]

theorem Token.keeps_next? (mode : Mode) (cs : List Char) :
    Keeps back (Token.next? mode cs) (Token.next? mode (cs ++ ')' :: back)) := by
  rcases cs with _ | ⟨c, cs⟩
  · exact .of_behind fun _ _ => Token.behind_of_next?
  · have hquantified (quantifier : Quantifier) (cs : List Char) : Keeps back
        (some (quantified quantifier cs)) (some (quantified quantifier (cs ++ ')' :: back))) := by
      rw [quantified_append]
      exact .pure _ _
    unfold Token.next?
    split
    case h_14 =>
      rename_i heq
      cases heq
      simpa [*] using Keeps.pure _ cs
    all_goals
      rename_i heq
      cases heq
    · exact Keeps.skip mode (fun _ _ _ => suffix_of_opening?) fun cs _ _ => keeps_opening? mode cs
    · exact .pure _ cs
    · exact .pure _ cs
    · exact hquantified .star cs
    · exact hquantified .plus cs
    · exact hquantified .opt cs
    · simp only [List.cons_append, Option.map_eq_bind]
      refine (Quantifier.keeps_count? mode cs).bind (fun count rest _ => ?_)
        fun count rest token rest' h => ?_
      · exact Keeps.skip mode (f := fun cs => some (quantified count cs))
          (suffix_of_total (suffix_quantified count)) fun cs _ _ => hquantified count cs
      · exact (suffix_of_total (suffix_quantified count) _ token rest' h).trans
          (mode.suffix_skip rest)
    · exact .checkMap mode.dot? _ cs
    · exact .pure _ cs
    · exact .pure _ cs
    · exact (keeps_set? mode cs).map fun set => Token.atom ⟨.atom set.value, set.depth⟩
    · exact (keeps_afterBackslash? mode cs).map fun meaning =>
        Token.atom (.leaf (meaning.program mode))

theorem keeps_first (mode : Mode) (cs : List Char) :
    Keeps back (Token.next? mode (mode.skip cs))
      (Token.next? mode (mode.skip (cs ++ ')' :: back))) :=
  Keeps.skip mode (fun _ _ _ h => (Token.behind_of_next? h).suffix)
    fun cs _ _ => Token.keeps_next? mode cs

end

theorem opening?_ne_closeGroup {mode : Mode} {cs rest : List Char} :
    opening? mode cs ≠ some (.closeGroup, rest) := by
  unfold opening?
  split
  · simp
  · simp
  · simp
  · rw [switched?]
    split <;> simp
  · simp

theorem Token.eq_bracket_of_next? {mode : Mode} {cs rest : List Char}
    (h : Token.next? mode cs = some (.closeGroup, rest)) : cs = ')' :: rest := by
  unfold Token.next? at h
  split at h
  case h_2 => exact absurd h opening?_ne_closeGroup
  case h_3 =>
    cases h
    rfl
  all_goals simp [quantified] at h

end RouteTable.Pattern
