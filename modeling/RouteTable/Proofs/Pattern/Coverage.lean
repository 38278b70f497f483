import RouteTable.Pattern.Escape
/-!
# Covered offsets

Escaping moves cursors over the protected spans.  It gives what a look at all
spans for each character gives: `escapeFrom_eq`, for any spans that lie one
after the other, as the occurrences of a pattern do: `Regex.increasing_spans`.
-/

namespace RouteTable.Pattern

open RouteTable.Text

/-- Spans that lie one after the other.  Some of them may be empty. -/
structure Increasing (spans : List Span) : Prop where
  ordered : ∀ s ∈ spans, s.start ≤ s.stop
  apart : spans.Pairwise fun s t => s.stop ≤ t.start

def isCovered (spans : List (List Span)) (offset : Nat) : Bool :=
  spans.any fun cursor => cursor.any (·.covers offset)

def escapeUncovered (covered : Nat → Bool) (offset : Nat) : List Char → List Char
  | [] => []
  | c :: cs =>
      let rest := escapeUncovered covered (offset + c.utf8Size) cs
      if specialCharacters.contains c && !covered offset then '\\' :: c :: rest else c :: rest

theorem covers_eq_false_of_stop_le {s : Span} {offset : Nat} (h : s.stop ≤ offset) :
    s.covers offset = false := by
  simp [Span.covers]
  omega

theorem covers_eq_false_of_lt_start {s : Span} {offset : Nat} (h : offset < s.start) :
    s.covers offset = false := by
  simp [Span.covers]
  omega

theorem Increasing.tail {s : Span} {spans : List Span} (h : Increasing (s :: spans)) :
    Increasing spans where
  ordered t ht := h.ordered t (List.mem_cons_of_mem _ ht)
  apart := (List.pairwise_cons.1 h.apart).2

theorem Increasing.advance {cursor : Cursor} (h : Increasing cursor) (offset : Nat) :
    Increasing (cursor.advance offset) := by
  unfold Cursor.advance
  split
  · cases cursor with
    | nil => exact h
    | cons s cursor => exact h.tail
  · exact h

theorem any_covers_of_covers {cursor : Cursor} {offset : Nat} (h : cursor.covers offset = true) :
    cursor.any (·.covers offset) = true := by
  cases cursor with
  | nil => exact h
  | cons s cursor =>
      have hs : s.covers offset = true := h
      rw [List.any_cons, hs, Bool.true_or]

/-- A span that has ended covers nothing further on, so dropping it loses nothing. -/
theorem any_covers_advance (cursor : Cursor) {offset later : Nat} (hlater : offset ≤ later) :
    (cursor.advance offset).any (·.covers later) = cursor.any (·.covers later) := by
  unfold Cursor.advance
  split
  · rename_i hbehind
    cases cursor with
    | nil => rfl
    | cons s cursor =>
        have hstop : s.stop ≤ offset := by simpa [Cursor.isBehind] using hbehind
        have hs : s.covers later = false := covers_eq_false_of_stop_le (by omega)
        rw [List.tail_cons, List.any_cons, hs, Bool.false_or]
  · rfl

/-- A span that has not ended decides: those after it begin where it ends, or later. -/
theorem covers_of_not_isBehind {cursor : Cursor} {offset : Nat} (h : Increasing cursor)
    (hbehind : cursor.isBehind offset = false) :
    cursor.covers offset = cursor.any (·.covers offset) := by
  cases cursor with
  | nil => rfl
  | cons s cursor =>
      have hstop : offset < s.stop := by simpa [Cursor.isBehind] using hbehind
      have hrest : cursor.any (·.covers offset) = false := by
        rw [List.any_eq_false]
        intro t ht
        have hapart := (List.pairwise_cons.1 h.apart).1 t ht
        simp [covers_eq_false_of_lt_start (show offset < t.start by omega)]
      rw [List.any_cons, hrest, Bool.or_false]
      rfl

theorem increasing_round {cursors : List Cursor} (h : ∀ cursor ∈ cursors, Increasing cursor)
    (offset : Nat) : ∀ cursor ∈ (Cursor.round offset cursors).cursors, Increasing cursor := by
  induction cursors with
  | nil => exact h
  | cons cursor cursors ih =>
      have hcursor := (h cursor List.mem_cons_self).advance offset
      have hcursors := fun c hc => h c (List.mem_cons_of_mem _ hc)
      rw [Cursor.round]
      split
      · exact List.forall_mem_cons.2 ⟨hcursor, hcursors⟩
      · exact List.forall_mem_cons.2 ⟨hcursor, ih hcursors⟩

theorem isCovered_round (cursors : List Cursor) {offset later : Nat} (hlater : offset ≤ later) :
    isCovered (Cursor.round offset cursors).cursors later = isCovered cursors later := by
  induction cursors with
  | nil => rfl
  | cons cursor cursors ih =>
      have hcursor := any_covers_advance cursor hlater
      rw [Cursor.round]
      split
      · simp only [isCovered, List.any_cons, hcursor]
      · simp only [isCovered, List.any_cons, hcursor] at ih ⊢
        rw [ih]

theorem isCovered_of_covered_round {cursors : List Cursor} {offset : Nat}
    (h : (Cursor.round offset cursors).covered = true) : isCovered cursors offset = true := by
  induction cursors with
  | nil => exact h
  | cons cursor cursors ih =>
      rw [Cursor.round] at h
      rw [isCovered, List.any_cons, Bool.or_eq_true]
      split at h
      · rename_i hcovers
        have hcursor := any_covers_of_covers hcovers
        rw [any_covers_advance cursor (Nat.le_refl offset)] at hcursor
        exact .inl hcursor
      · exact .inr (ih h)

theorem isCovered_of_settled_round {cursors : List Cursor} {offset : Nat}
    (h : ∀ cursor ∈ cursors, Increasing cursor)
    (hcovered : (Cursor.round offset cursors).covered = false)
    (hmoved : (Cursor.round offset cursors).moved = false) : isCovered cursors offset = false := by
  induction cursors with
  | nil => rfl
  | cons cursor cursors ih =>
      rw [Cursor.round] at hcovered hmoved
      split at hcovered
      · cases hcovered
      · rename_i hcovers
        rw [if_neg hcovers, Bool.or_eq_false_iff] at hmoved
        obtain ⟨hbehind, hmoved⟩ := hmoved
        have hstays : cursor.advance offset = cursor := by
          rw [Cursor.advance, hbehind]
          rfl
        have hcursor := covers_of_not_isBehind (h cursor List.mem_cons_self) hbehind
        have hcursors := ih (fun c hc => h c (List.mem_cons_of_mem _ hc)) hcovered hmoved
        rw [hstays, hcursor, Bool.not_eq_true] at hcovers
        rw [isCovered, List.any_cons, hcovers, Bool.false_or]
        exact hcursors

theorem protectedAt_fst {cursors : List Cursor} (h : ∀ cursor ∈ cursors, Increasing cursor)
    (offset : Nat) : (protectedAt offset cursors).1 = isCovered cursors offset := by
  fun_induction protectedAt offset cursors with
  | case1 cursors next hcovered => exact (isCovered_of_covered_round hcovered).symm
  | case2 cursors next hcovered hmoved ih =>
      rw [ih (increasing_round h offset), isCovered_round cursors (Nat.le_refl offset)]
  | case3 cursors next hcovered hmoved =>
      rw [Bool.not_eq_true] at hcovered hmoved
      exact (isCovered_of_settled_round h hcovered hmoved).symm

theorem increasing_protectedAt {cursors : List Cursor}
    (h : ∀ cursor ∈ cursors, Increasing cursor) (offset : Nat) :
    ∀ cursor ∈ (protectedAt offset cursors).2, Increasing cursor := by
  fun_induction protectedAt offset cursors with
  | case1 cursors | case3 cursors => exact increasing_round h offset
  | case2 cursors next hcovered hmoved ih => exact ih (increasing_round h offset)

theorem isCovered_protectedAt (cursors : List Cursor) {offset later : Nat}
    (hlater : offset ≤ later) :
    isCovered (protectedAt offset cursors).2 later = isCovered cursors later := by
  fun_induction protectedAt offset cursors with
  | case1 cursors | case3 cursors => exact isCovered_round cursors hlater
  | case2 cursors next hcovered hmoved ih => rw [ih, isCovered_round cursors hlater]

theorem escapeUncovered_congr {f g : Nat → Bool} {offset : Nat} (cs : List Char)
    (h : ∀ later, offset ≤ later → f later = g later) :
    escapeUncovered f offset cs = escapeUncovered g offset cs := by
  induction cs generalizing offset with
  | nil => rfl
  | cons c cs ih =>
      have hrest : escapeUncovered f (offset + c.utf8Size) cs =
          escapeUncovered g (offset + c.utf8Size) cs :=
        ih fun later hlater => h later (by omega)
      simp only [escapeUncovered, hrest, h offset (Nat.le_refl _)]

/-- The cursors see every span that covers a special character. -/
theorem escapeFrom_eq {cursors : List Cursor} (h : ∀ cursor ∈ cursors, Increasing cursor)
    (offset : Nat) (cs : List Char) :
    escapeFrom offset cursors cs = escapeUncovered (isCovered cursors) offset cs := by
  induction cs generalizing cursors offset with
  | nil => rfl
  | cons c cs ih =>
      cases hspecial : specialCharacters.contains c with
      | false => simp only [escapeFrom, escapeUncovered, hspecial, ih h]; rfl
      | true =>
          have hrest : escapeFrom (offset + c.utf8Size) (protectedAt offset cursors).2 cs =
              escapeUncovered (isCovered cursors) (offset + c.utf8Size) cs := by
            rw [ih (increasing_protectedAt h offset)]
            exact escapeUncovered_congr cs fun later hlater =>
              isCovered_protectedAt cursors (by omega)
          simp only [escapeFrom, escapeUncovered, hspecial, hrest, protectedAt_fst h]
          cases isCovered cursors offset <;> rfl

namespace Automaton

variable {a : Automaton} {before : Option Char} {previous : Option Nat} {offset : Nat}
  {cs : List Char}

theorem le_start_of_mem_spansFrom {s : Span} (h : s ∈ a.spansFrom before previous offset cs) :
    offset ≤ s.start := by
  fun_induction spansFrom a before previous offset cs with
  | case1 before previous offset hempty =>
      obtain rfl := List.mem_singleton.1 h
      exact Nat.le_refl _
  | case2 => simp at h
  | case3 before previous offset c cs n hfound found stop ih =>
      rcases List.mem_cons.1 h with rfl | h
      · exact Nat.le_refl _
      · exact Nat.le_trans (Nat.le_add_right _ _) (ih h)
  | case4 before offset c cs hfound rest ih =>
      exact Nat.le_trans (Nat.le_add_right _ _) (ih h)
  | case5 before previous offset c cs hfound rest hprevious ih =>
      rcases List.mem_cons.1 h with rfl | h
      · exact Nat.le_refl _
      · exact Nat.le_trans (Nat.le_add_right _ _) (ih h)
  | case6 before previous offset c cs hfound ih =>
      exact Nat.le_trans (Nat.le_add_right _ _) (ih h)

theorem increasing_spansFrom : Increasing (a.spansFrom before previous offset cs) := by
  fun_induction spansFrom a before previous offset cs with
  | case1 => exact ⟨by simp, List.pairwise_singleton _ _⟩
  | case2 => exact ⟨by simp, .nil⟩
  | case3 before previous offset c cs n hfound found stop ih =>
      refine ⟨List.forall_mem_cons.2 ⟨Nat.le_add_right _ _, ih.ordered⟩, ?_⟩
      exact List.pairwise_cons.2 ⟨fun s hs => le_start_of_mem_spansFrom hs, ih.apart⟩
  | case4 before offset c cs hfound rest ih => exact ih
  | case5 before previous offset c cs hfound rest hprevious ih =>
      refine ⟨List.forall_mem_cons.2 ⟨Nat.le_refl _, ih.ordered⟩, ?_⟩
      refine List.pairwise_cons.2 ⟨fun s hs => ?_, ih.apart⟩
      exact Nat.le_trans (Nat.le_add_right _ _) (le_start_of_mem_spansFrom hs)
  | case6 before previous offset c cs hfound ih => exact ih

end Automaton

theorem Regex.increasing_spans (r : Regex) (text : String) : Increasing (r.spans text) :=
  Automaton.increasing_spansFrom

end RouteTable.Pattern
