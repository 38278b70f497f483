import RouteTable.Pattern.Language
import RouteTable.Pattern.Marked
/-!
# Occurrences by marks

A mark stands for a word that is under way.  Moving the marks over a character
keeps what can complete such a word, and so reading a text with marks finds out
whether a part of it matches.  Main statement: `occursIn_iff`.
-/

namespace RouteTable.Pattern

namespace Marked

def erase : Marked → Regex
  | idle r => r
  | mark set => .atom set
  | seq first second => .seq first.erase second.erase
  | alt left right => .alt left.erase right.erase
  | star isLazy body => .star isLazy body.erase
  | plus isLazy body => .plus isLazy body.erase

/-- The texts between a marked atom, which has read `before`, and a place further
on that complete a word. -/
def Rest (before : Option Char) : Marked → List Char → Option Char → Prop
  | idle _, _, _ => False
  | mark _, w, _ => w = []
  | seq p q, w, after =>
      (∃ u v, w = u ++ v ∧ Rest before p u (charAfter v after) ∧
        Matches q.erase (charBefore before u) v after) ∨
      Rest before q w after
  | alt p q, w, after => Rest before p w after ∨ Rest before q w after
  | star isLazy p, w, after | plus isLazy p, w, after =>
      ∃ u v, w = u ++ v ∧ Rest before p u (charAfter v after) ∧
        Matches (.star isLazy p.erase) (charBefore before u) v after

@[simp] theorem erase_ofSeq (p q : Marked) : (ofSeq p q).erase = .seq p.erase q.erase := by
  unfold ofSeq
  split <;> rfl

@[simp] theorem erase_ofAlt (p q : Marked) : (ofAlt p q).erase = .alt p.erase q.erase := by
  unfold ofAlt
  split <;> rfl

@[simp] theorem erase_ofStar (isLazy : Bool) (p : Marked) :
    (ofStar isLazy p).erase = .star isLazy p.erase := by
  unfold ofStar
  split <;> rfl

@[simp] theorem erase_ofPlus (isLazy : Bool) (p : Marked) :
    (ofPlus isLazy p).erase = .plus isLazy p.erase := by
  unfold ofPlus
  split <;> rfl

section

variable {before after : Option Char} {isLazy : Bool} {p q : Marked} {w : List Char}

@[simp] theorem rest_ofSeq :
    Rest before (ofSeq p q) w after ↔ Rest before (seq p q) w after := by
  unfold ofSeq
  split <;> simp [Rest]

@[simp] theorem rest_ofAlt :
    Rest before (ofAlt p q) w after ↔ Rest before (alt p q) w after := by
  unfold ofAlt
  split <;> simp [Rest]

@[simp] theorem rest_ofStar :
    Rest before (ofStar isLazy p) w after ↔ Rest before (star isLazy p) w after := by
  unfold ofStar
  split <;> simp [Rest]

@[simp] theorem rest_ofPlus :
    Rest before (ofPlus isLazy p) w after ↔ Rest before (plus isLazy p) w after := by
  unfold ofPlus
  split <;> simp [Rest]

end

@[simp] theorem erase_enter (before : Option Char) (c : Char) (r : Regex) :
    (enter before c r).erase = r := by
  induction r with
  | atom set =>
      rw [enter]
      split <;> rfl
  | seq p q ihp ihq =>
      rw [enter]
      split <;> simp [ihp, ihq, erase]
  | alt p q ihp ihq => simp [enter, ihp, ihq]
  | star _ p ih => simp [enter, ih]
  | plus _ p ih => simp [enter, ih]
  | _ => rfl

@[simp] theorem erase_shift (before : Option Char) (entered : Bool) (c : Char) (m : Marked) :
    (m.shift before entered c).erase = m.erase := by
  induction m generalizing entered with
  | idle r =>
      rw [shift]
      split <;> simp [erase]
  | mark set =>
      rw [shift]
      split <;> rfl
  | seq p q ihp ihq => simp [shift, ihp, ihq, erase]
  | alt p q ihp ihq => simp [shift, ihp, ihq, erase]
  | star _ p ih => simp [shift, ih, erase]
  | plus _ p ih => simp [shift, ih, erase]

@[simp] theorem nullable_erase (before after : Option Char) (m : Marked) :
    m.erase.nullable before after = m.nullable before after := by
  induction m with
  | seq p q ihp ihq => simp [erase, Regex.nullable, nullable, ihp, ihq]
  | alt p q ihp ihq => simp [erase, Regex.nullable, nullable, ihp, ihq]
  | plus _ p ih => simp [erase, Regex.nullable, nullable, ih]
  | _ => rfl

theorem rest_nil_iff {before after : Option Char} {m : Marked} :
    Rest before m [] after ↔ m.isFinal before after = true := by
  induction m generalizing after with
  | seq p q ihp ihq =>
      rw [Rest, exists_cut_nil]
      simp [isFinal, Matches.nil_iff, ihp, ihq]
  | alt p q ihp ihq => simp [Rest, isFinal, ihp, ihq]
  | star _ p ih =>
      rw [Rest, exists_cut_nil]
      simp [isFinal, ih, Matches.stop]
  | plus _ p ih =>
      rw [Rest, exists_cut_nil]
      simp [isFinal, ih, Matches.stop]
  | _ => simp [Rest, isFinal]

theorem rest_enter_iff {before after : Option Char} {c : Char} {r : Regex} {w : List Char} :
    Rest (some c) (enter before c r) w after ↔ Matches r before (c :: w) after := by
  induction r generalizing after w with
  | seq p q ihp ihq =>
      simp only [enter, rest_ofSeq, Rest, Matches.seq_iff, exists_cut_cons, ihp, Matches.nil_iff]
      cases hnull : p.nullable before (some c) <;> simp [Rest, erase, ihq, or_comm, hnull]
  | alt p q ihp ihq => simp [enter, Rest, Matches.alt_iff, ihp, ihq]
  | star _ p ih => simp [enter, Rest, Matches.star_cons_iff, ih]
  | plus _ p ih => simp [enter, Rest, Matches.plus_cons_iff, Matches.star_cons_iff, ih]
  | atom set =>
      rw [enter]
      cases h : set.contains c <;> simp [Rest, and_assoc, h]
  | _ => simp [enter, Rest]

theorem rest_shift_iff {before after : Option Char} {entered : Bool} {c : Char} {m : Marked}
    {w : List Char} :
    Rest (some c) (m.shift before entered c) w after ↔
      entered = true ∧ Matches m.erase before (c :: w) after ∨ Rest before m (c :: w) after := by
  induction m generalizing entered after w with
  | idle r => cases entered <;> simp [shift, Rest, erase, rest_enter_iff]
  | mark set =>
      cases entered <;> cases h : set.contains c <;> simp [shift, Rest, erase, and_assoc, h]
  | seq p q ihp ihq =>
      simp only [shift, rest_ofSeq, Rest, erase, erase_shift, ihp, ihq, Matches.seq_iff,
        exists_cut_cons]
      cases entered <;>
        simp [Matches.nil_iff, rest_nil_iff, or_and_right]
      all_goals grind
  | alt p q ihp ihq =>
      simp only [shift, rest_ofAlt, Rest, erase, ihp, ihq, Matches.alt_iff]
      grind
  | star _ p ih =>
      simp only [shift, rest_ofStar, Rest, erase, erase_shift, ih, Matches.star_cons_iff,
        exists_cut_cons]
      cases entered <;> cases hfinal : p.isFinal before (some c) <;>
        simp [rest_nil_iff, hfinal, or_and_right, and_or_left, exists_or]
  | plus _ p ih =>
      simp only [shift, rest_ofPlus, Rest, erase, erase_shift, ih, Matches.plus_cons_iff,
        Matches.star_cons_iff, exists_cut_cons]
      cases entered <;> cases hfinal : p.isFinal before (some c) <;>
        simp [rest_nil_iff, hfinal, or_and_right, and_or_left, exists_or]

theorem occurs_iff {before : Option Char} {m : Marked} {text : List Char} :
    m.occurs before text = true ↔
      (∃ w rest, text = w ++ rest ∧ Rest before m w rest.head?) ∨
      ∃ front back, text = front ++ back ∧ ∃ w rest, back = w ++ rest ∧
        Matches m.erase (charBefore before front) w rest.head? := by
  induction text generalizing before m with
  | nil =>
      simp only [exists_cut_nil, rest_nil_iff, Matches.nil_iff]
      simp [occurs, or_comm]
  | cons c text ih =>
      simp only [exists_cut_cons, rest_nil_iff, Matches.nil_iff, occurs, Bool.or_eq_true, ih,
        rest_shift_iff, erase_shift, nullable_erase]
      simp [and_or_left, exists_or]
      grind

end Marked

/-- A pattern occurs in a text if it matches some part of the text in its place. -/
theorem Regex.occursIn_iff {r : Regex} {text : List Char} :
    r.occursIn text = true ↔
      ∃ front w rest, text = front ++ (w ++ rest) ∧
        Matches r front.getLast? w rest.head? := by
  rw [occursIn, Marked.occurs_iff]
  constructor
  · rintro (⟨_, _, _, hrest⟩ | ⟨front, _, rfl, w, rest, rfl, hw⟩)
    · exact hrest.elim
    · exact ⟨front, w, rest, rfl, by simpa [charBefore, Marked.erase] using hw⟩
  · rintro ⟨front, w, rest, rfl, hw⟩
    exact .inr ⟨front, _, rfl, w, rest, rfl, by simpa [charBefore, Marked.erase] using hw⟩

end RouteTable.Pattern
