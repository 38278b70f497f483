import RouteTable.Pattern.Replace
import RouteTable.Proofs.Pattern.Coverage
/-!
# Searching for a pattern

A pattern that looks at nothing before a place and has no empty word is searched
for by a function that says how long its word is from a place on.  The spans of
the pattern and what replaces them follow from that function alone:
`Finds.spans_eq` and `Finds.toList_replaceAll`.
-/

namespace RouteTable.Pattern

open RouteTable.Text

/-! ## Running an automaton -/

namespace Automaton

def ahead (a : Automaton) (before after : Option Char) (states : List Nat) :
    List (CharSet × Nat) × Bool :=
  a.settle before after (states.length + 2 * a.steps.size + 1)
    (Array.replicate a.steps.size false) [] states

theorem run_nil (a : Automaton) (before : Option Char) (states : List Nat) (count : Nat)
    (best : Option Nat) :
    a.run before states count best [] =
      if (a.ahead before none states).2 then some count else best := rfl

theorem run_cons (a : Automaton) (before : Option Char) (states : List Nat) (count : Nat)
    (best : Option Nat) (c : Char) (cs : List Char) :
    a.run before states count best (c :: cs) =
      match (a.ahead before (some c) states).1.filterMap fun (set, next) =>
          if set.contains c then some next else none with
      | [] => if (a.ahead before (some c) states).2 then some count else best
      | next =>
          a.run (some c) next (count + 1)
            (if (a.ahead before (some c) states).2 then some count else best) cs := rfl

theorem run_of_ended {a : Automaton} {states : List Nat}
    (h : ∀ before after, a.ahead before after states = ([], true)) (before : Option Char)
    (count : Nat) (best : Option Nat) (cs : List Char) :
    a.run before states count best cs = some count := by
  cases cs with
  | nil => simp [run_nil, h]
  | cons c cs => simp [run_cons, h]

end Automaton

/-! ## What is found at a place -/

/-- The word that the pattern prefers is, from every place on, as long as `find`
says. -/
structure Finds (r : Regex) (find : List Char → Option Nat) : Prop where
  preferred : ∀ before cs, (Automaton.ofRegex r).preferred? before cs = find cs
  not_empty : ∀ cs, find cs ≠ some 0
  length_le : ∀ {cs n}, find cs = some n → n ≤ cs.length

def spansBy (find : List Char → Option Nat) (offset : Nat) : List Char → List Span
  | [] => []
  | c :: cs =>
      match find (c :: cs) with
      | some (n + 1) =>
          let stop := offset + width ((c :: cs).take (n + 1))
          ⟨offset, stop⟩ :: spansBy find stop (cs.drop n)
      | _ => spansBy find (offset + c.utf8Size) cs
termination_by cs => cs.length
decreasing_by
  all_goals simp only [List.length_drop, List.length_cons]
  all_goals omega

def replaceBy (find : List Char → Option Nat) (new : List Char) : List Char → List Char
  | [] => []
  | c :: cs =>
      match find (c :: cs) with
      | some (n + 1) => new ++ replaceBy find new (cs.drop n)
      | _ => c :: replaceBy find new cs
termination_by cs => cs.length
decreasing_by
  all_goals simp only [List.length_drop, List.length_cons]
  all_goals omega

section

variable {r : Regex} {find : List Char → Option Nat}

theorem Finds.nil (h : Finds r find) : find [] = none := by
  cases hfind : find [] with
  | none => rfl
  | some n =>
      obtain rfl : n = 0 := by simpa using h.length_le hfind
      exact absurd hfind (h.not_empty [])

@[simp] theorem spansBy_nil (offset : Nat) : spansBy find offset [] = [] := by
  rw [spansBy]

@[simp] theorem replaceBy_nil (new : List Char) : replaceBy find new [] = [] := by
  rw [replaceBy]

theorem spansBy_cons_of_none {c : Char} {cs : List Char} (offset : Nat)
    (h : find (c :: cs) = none) :
    spansBy find offset (c :: cs) = spansBy find (offset + c.utf8Size) cs := by
  rw [spansBy, h]

theorem replaceBy_cons_of_none {new : List Char} {c : Char} {cs : List Char}
    (h : find (c :: cs) = none) :
    replaceBy find new (c :: cs) = c :: replaceBy find new cs := by
  rw [replaceBy, h]

theorem spansBy_append_of_some {w cs : List Char} (offset : Nat) (hw : w ≠ [])
    (h : find (w ++ cs) = some w.length) :
    spansBy find offset (w ++ cs) =
      ⟨offset, offset + width w⟩ :: spansBy find (offset + width w) cs := by
  obtain ⟨c, w, rfl⟩ := List.exists_cons_of_ne_nil hw
  rw [List.cons_append] at h ⊢
  rw [spansBy, h]
  simp

theorem replaceBy_append_of_some {new w cs : List Char} (hw : w ≠ [])
    (h : find (w ++ cs) = some w.length) :
    replaceBy find new (w ++ cs) = new ++ replaceBy find new cs := by
  obtain ⟨c, w, rfl⟩ := List.exists_cons_of_ne_nil hw
  rw [List.cons_append] at h ⊢
  rw [replaceBy, h]
  simp

/-! ## Spans of a pattern -/

theorem Finds.spansFrom_eq (h : Finds r find) (before : Option Char) (previous : Option Nat)
    (offset : Nat) (cs : List Char) :
    (Automaton.ofRegex r).spansFrom before previous offset cs = spansBy find offset cs := by
  fun_induction Automaton.spansFrom (Automaton.ofRegex r) before previous offset cs with
  | case1 before previous offset hnil =>
      rw [h.preferred, h.nil] at hnil
      simp at hnil
  | case2 => simp
  | case3 before previous offset c cs n hfind found stop ih =>
      rw [h.preferred] at hfind
      rw [spansBy, hfind, ih]
  | case4 before offset c cs hfind =>
      rw [h.preferred] at hfind
      exact absurd hfind (h.not_empty _)
  | case5 before previous offset c cs hfind =>
      rw [h.preferred] at hfind
      exact absurd hfind (h.not_empty _)
  | case6 before previous offset c cs hfind ih =>
      rw [h.preferred] at hfind
      rw [spansBy_cons_of_none _ hfind, ih]

theorem Finds.spans_eq (h : Finds r find) (text : String) :
    r.spans text = spansBy find 0 text.toList :=
  h.spansFrom_eq _ _ _ _

theorem le_start_of_mem_spansBy {offset : Nat} {cs : List Char} {s : Span}
    (h : s ∈ spansBy find offset cs) : offset ≤ s.start := by
  fun_induction spansBy find offset cs with
  | case1 => simp at h
  | case2 offset c cs n hfind stop ih =>
      rcases List.mem_cons.1 h with rfl | h
      · exact Nat.le_refl _
      · exact Nat.le_trans (Nat.le_add_right _ _) (ih h)
  | case3 offset c cs _ ih => exact Nat.le_trans (Nat.le_add_right _ _) (ih h)

theorem Finds.exists_word (h : Finds r find) {w : List Char} {n : Nat} (hfind : find w = some n) :
    ∃ u v, w = u ++ v ∧ u ≠ [] ∧ u.length = n := by
  refine ⟨w.take n, w.drop n, (List.take_append_drop n w).symm, ?_, ?_⟩
  · have hzero : n ≠ 0 := fun hn => h.not_empty w (hn ▸ hfind)
    have hlength := h.length_le hfind
    rw [ne_eq, List.take_eq_nil_iff, not_or]
    exact ⟨hzero, List.ne_nil_of_length_pos (by omega)⟩
  · rw [List.length_take, Nat.min_eq_left (h.length_le hfind)]

theorem Finds.stop_le (h : Finds r find) {offset : Nat} {w : List Char} :
    ∀ s ∈ spansBy find offset w, s.stop ≤ offset + width w := by
  induction hn : w.length using Nat.strongRecOn generalizing w offset with
  | ind n ih =>
      subst hn
      cases w with
      | nil => simp
      | cons c w =>
          intro s hs
          cases hfind : find (c :: w) with
          | none =>
              rw [spansBy_cons_of_none _ hfind] at hs
              rw [width_cons, ← Nat.add_assoc]
              exact ih _ (by simp) rfl s hs
          | some n =>
              obtain ⟨u, v, hw, hu, rfl⟩ := h.exists_word hfind
              have hpos := List.length_pos_iff.2 hu
              rw [hw] at hfind hs ⊢
              rw [spansBy_append_of_some _ hu hfind] at hs
              rw [width_append, ← Nat.add_assoc]
              rcases List.mem_cons.1 hs with rfl | hs
              · exact Nat.le_add_right _ _
              · exact ih v.length (by simp [hw]; omega) rfl s hs

/-- A text can be searched in two parts if no word reaches from the first one into
the second. -/
theorem Finds.spansBy_append (h : Finds r find) {w cs : List Char}
    (hcut : ∀ back, back <:+ w → back ≠ [] → find (back ++ cs) = find back) (offset : Nat) :
    spansBy find offset (w ++ cs) =
      spansBy find offset w ++ spansBy find (offset + width w) cs := by
  induction hn : w.length using Nat.strongRecOn generalizing w offset with
  | ind n ih =>
      subst hn
      cases w with
      | nil => simp
      | cons c w =>
          have hhead := hcut (c :: w) (List.suffix_refl _) (by simp)
          cases hfind : find (c :: w) with
          | none =>
              rw [hfind, List.cons_append] at hhead
              have hrest := ih w.length (by simp)
                (fun back hback => hcut back (hback.trans (List.suffix_cons c w)))
                (offset + c.utf8Size) rfl
              rw [List.cons_append, spansBy_cons_of_none _ hhead, spansBy_cons_of_none _ hfind,
                hrest, width_cons, Nat.add_assoc]
          | some n =>
              obtain ⟨u, v, hw, hu, rfl⟩ := h.exists_word hfind
              have hpos := List.length_pos_iff.2 hu
              have hlength : v.length < (c :: w).length := by
                rw [hw, List.length_append]
                omega
              rw [hw] at hcut hhead hfind ⊢
              rw [hfind, List.append_assoc] at hhead
              have hrest := ih v.length hlength
                (fun back hback => hcut back (hback.trans (List.suffix_append u v)))
                (offset + width u) rfl
              rw [List.append_assoc, spansBy_append_of_some _ hu hhead,
                spansBy_append_of_some _ hu hfind, hrest, width_append, List.cons_append,
                Nat.add_assoc]

/-! ## Covered offsets -/

theorem any_covers_spansBy_of_lt {place offset : Nat} (h : place < offset) (cs : List Char) :
    (spansBy find offset cs).any (·.covers place) = false := by
  rw [List.any_eq_false]
  intro s hs
  have hstart := le_start_of_mem_spansBy hs
  simp [covers_eq_false_of_lt_start (show place < s.start by omega)]

/-- Whether the search for words goes on behind `w` as if the text began there. -/
def Passes (find : List Char → Option Nat) (w cs : List Char) : Prop :=
  ∀ {offset place}, offset + width w ≤ place →
    (spansBy find offset (w ++ cs)).any (·.covers place) =
      (spansBy find (offset + width w) cs).any (·.covers place)

theorem Finds.passes_of_cut (h : Finds r find) {w cs : List Char}
    (hcut : ∀ back, back <:+ w → back ≠ [] → find (back ++ cs) = find back) :
    Passes find w cs := by
  intro offset place hplace
  have hfront : (spansBy find offset w).any (·.covers place) = false := by
    rw [List.any_eq_false]
    intro s hs
    have hstop := h.stop_le s hs
    simp [covers_eq_false_of_stop_le (show s.stop ≤ place by omega)]
  rw [h.spansBy_append hcut, List.any_append, hfront, Bool.false_or]

theorem passes_of_some {w cs : List Char} (hw : w ≠ []) (h : find (w ++ cs) = some w.length) :
    Passes find w cs := by
  intro offset place hplace
  rw [spansBy_append_of_some _ hw h, List.any_cons, covers_eq_false_of_stop_le hplace,
    Bool.false_or]

theorem any_covers_of_some {w cs : List Char} (hw : w ≠ []) (h : find (w ++ cs) = some w.length)
    {offset place : Nat} (hle : offset ≤ place) (hlt : place < offset + width w) :
    (spansBy find offset (w ++ cs)).any (·.covers place) = true := by
  rw [spansBy_append_of_some _ hw h, List.any_cons]
  simp [Span.covers, hle, hlt]

/-! ## Words that begin with one character only -/

def StartsWith (find : List Char → Option Nat) (d : Char) : Prop :=
  ∀ c cs, c ≠ d → find (c :: cs) = none

theorem StartsWith.passes {d : Char} (h : StartsWith find d) {w : List Char} (hw : d ∉ w)
    (cs : List Char) : Passes find w cs := by
  intro offset place _
  induction w generalizing offset with
  | nil => rfl
  | cons c w ih =>
      simp only [List.mem_cons, not_or] at hw
      rw [List.cons_append, spansBy_cons_of_none _ (h c _ (Ne.symm hw.1)), width_cons,
        ← Nat.add_assoc]
      exact ih hw.2 (by simp_all; omega)

theorem StartsWith.replaceBy_append {d : Char} (h : StartsWith find d) {w : List Char}
    (hw : d ∉ w) (new cs : List Char) :
    replaceBy find new (w ++ cs) = w ++ replaceBy find new cs := by
  induction w with
  | nil => rfl
  | cons c w ih =>
      simp only [List.mem_cons, not_or] at hw
      rw [List.cons_append, replaceBy_cons_of_none (h c _ (Ne.symm hw.1)), ih hw.2,
        List.cons_append]

/-- Texts one after the other can be replaced each by itself if every one of them lacks
the character that words begin with, or is a word as a whole. -/
theorem StartsWith.replaceBy_flatMap {α : Type} {d : Char} (h : StartsWith find d)
    {new : List Char} {old kept : α → List Char} {xs : List α}
    (hxs : ∀ x ∈ xs, d ∉ old x ∧ kept x = old x ∨
      old x ≠ [] ∧ (∀ cs, find (old x ++ cs) = some (old x).length) ∧ kept x = new) :
    replaceBy find new (xs.flatMap old) = xs.flatMap kept := by
  induction xs with
  | nil => rw [List.flatMap_nil, List.flatMap_nil, replaceBy_nil]
  | cons x xs ih =>
      rw [List.forall_mem_cons] at hxs
      rw [List.flatMap_cons, List.flatMap_cons, ← ih hxs.2]
      rcases hxs.1 with ⟨hold, hkept⟩ | ⟨hne, hfind, hkept⟩
      · rw [hkept, h.replaceBy_append hold]
      · rw [hkept, replaceBy_append_of_some hne (hfind _)]

/-! ## Replacing -/

theorem replaceSpans_cons {new : List Char} {offset : Nat} {spans : List Span} {c : Char}
    (cs : List Char) (h : ∀ s ∈ spans, offset + c.utf8Size ≤ s.start) :
    replaceSpans new offset spans (c :: cs) =
      c :: replaceSpans new (offset + c.utf8Size) spans cs := by
  cases spans with
  | nil => rfl
  | cons s spans =>
      have hstart := h s (by simp)
      have hsub : s.start - offset - c.utf8Size = s.start - (offset + c.utf8Size) := by omega
      simp only [replaceSpans, splitAtOffset_cons cs (show c.utf8Size ≤ s.start - offset by omega),
        hsub, List.cons_append]

theorem replaceSpans_append {new w cs : List Char} {offset : Nat} {spans : List Span} :
    replaceSpans new offset (⟨offset, offset + width w⟩ :: spans) (w ++ cs) =
      new ++ replaceSpans new (offset + width w) spans cs := by
  simp [replaceSpans, splitAtOffset_append]

theorem Finds.replaceSpans_spansBy (h : Finds r find) (new : List Char) (offset : Nat)
    (cs : List Char) :
    replaceSpans new offset (spansBy find offset cs) cs = replaceBy find new cs := by
  fun_induction spansBy find offset cs with
  | case1 => simp [replaceSpans]
  | case2 offset c cs n hfind stop ih =>
      have hn : n ≤ cs.length := by simpa using h.length_le hfind
      have hcut : (c :: cs).take (n + 1) ++ cs.drop n = c :: cs := by simp
      conv => lhs; rw [← hcut]
      rw [replaceSpans_append, ih, replaceBy, hfind]
  | case3 offset c cs hfind ih =>
      have hnone : find (c :: cs) = none := by
        cases hsome : find (c :: cs) with
        | none => rfl
        | some n =>
            cases n with
            | zero => exact absurd hsome (h.not_empty _)
            | succ n => exact (hfind n hsome).elim
      rw [replaceSpans_cons cs fun s hs => le_start_of_mem_spansBy hs, ih,
        replaceBy_cons_of_none hnone]

theorem Finds.toList_replaceAll (h : Finds r find) (new text : String) :
    (r.replaceAll new text).toList = replaceBy find new.toList text.toList := by
  rw [Regex.replaceAll, String.toList_ofList, h.spans_eq, h.replaceSpans_spansBy]

end

end RouteTable.Pattern
