import RouteTable.Pattern.Regex
/-!
# The words of a pattern

What a pattern matches, said by rules.  Conditions look at the characters beside
a place, so a word is matched between two characters, each of which is missing
at an end of the text.
-/

namespace RouteTable.Pattern

theorem exists_cut_nil {P : List Char → List Char → Prop} :
    (∃ u v, [] = u ++ v ∧ P u v) ↔ P [] [] := by
  constructor
  · rintro ⟨u, v, h, huv⟩
    obtain ⟨rfl, rfl⟩ := List.append_eq_nil_iff.1 h.symm
    exact huv
  · exact fun h => ⟨[], [], rfl, h⟩

theorem exists_cut_cons {c : Char} {w : List Char} {P : List Char → List Char → Prop} :
    (∃ u v, c :: w = u ++ v ∧ P u v) ↔
      P [] (c :: w) ∨ ∃ u v, w = u ++ v ∧ P (c :: u) v := by
  constructor
  · rintro ⟨u, v, h, huv⟩
    cases u with
    | nil =>
        obtain rfl : c :: w = v := h
        exact .inl huv
    | cons d u =>
        obtain ⟨rfl, rfl⟩ := List.cons.inj (show c :: w = d :: (u ++ v) from h)
        exact .inr ⟨u, v, rfl, huv⟩
  · rintro (h | ⟨u, v, rfl, huv⟩)
    · exact ⟨[], c :: w, rfl, h⟩
    · exact ⟨c :: u, v, rfl, huv⟩

def charBefore (before : Option Char) (w : List Char) : Option Char := w.getLast?.or before

def charAfter (w : List Char) (after : Option Char) : Option Char := w.head?.or after

@[simp] theorem charBefore_nil (before : Option Char) : charBefore before [] = before := by
  simp [charBefore]

@[simp] theorem charBefore_cons (before : Option Char) (c : Char) (w : List Char) :
    charBefore before (c :: w) = charBefore (some c) w := by
  simp [charBefore, List.getLast?_cons]

@[simp] theorem charAfter_nil (after : Option Char) : charAfter [] after = after := by
  simp [charAfter]

@[simp] theorem charAfter_cons (c : Char) (w : List Char) (after : Option Char) :
    charAfter (c :: w) after = some c := by
  simp [charAfter]

@[simp] theorem charBefore_append (before : Option Char) (u v : List Char) :
    charBefore before (u ++ v) = charBefore (charBefore before u) v := by
  simp [charBefore, Option.or_assoc]

@[simp] theorem charAfter_append (u v : List Char) (after : Option Char) :
    charAfter (u ++ v) after = charAfter u (charAfter v after) := by
  simp [charAfter, Option.or_assoc]

/-- The words that a pattern matches between two characters.  Where two parts of
a word meet, each looks at the other, or past it if it is empty. -/
inductive Matches : Regex → Option Char → List Char → Option Char → Prop
  | empty {before after : Option Char} : Matches .empty before [] after
  | look {before after : Option Char} {condition : Look}
      (h : condition.holds before after = true) : Matches (.look condition) before [] after
  | atom {before after : Option Char} {set : CharSet} {c : Char} (h : set.contains c = true) :
      Matches (.atom set) before [c] after
  | seq {before after : Option Char} {p q : Regex} {u v : List Char}
      (hp : Matches p before u (charAfter v after))
      (hq : Matches q (charBefore before u) v after) :
      Matches (.seq p q) before (u ++ v) after
  | left {before after : Option Char} {p q : Regex} {w : List Char}
      (hp : Matches p before w after) : Matches (.alt p q) before w after
  | right {before after : Option Char} {p q : Regex} {w : List Char}
      (hq : Matches q before w after) : Matches (.alt p q) before w after
  | stop {before after : Option Char} {isLazy : Bool} {p : Regex} :
      Matches (.star isLazy p) before [] after
  | again {before after : Option Char} {isLazy : Bool} {p : Regex} {u v : List Char}
      (hp : Matches p before u (charAfter v after))
      (hrest : Matches (.star isLazy p) (charBefore before u) v after) :
      Matches (.star isLazy p) before (u ++ v) after
  | once {before after : Option Char} {isLazy : Bool} {p : Regex} {u v : List Char}
      (hp : Matches p before u (charAfter v after))
      (hrest : Matches (.star isLazy p) (charBefore before u) v after) :
      Matches (.plus isLazy p) before (u ++ v) after

namespace Matches

variable {isLazy : Bool} {p q : Regex} {before after : Option Char} {c : Char} {w : List Char}

@[simp] theorem empty_iff : Matches .empty before w after ↔ w = [] :=
  ⟨fun | .empty => rfl, fun h => h ▸ .empty⟩

@[simp] theorem look_iff {condition : Look} :
    Matches (.look condition) before w after ↔ w = [] ∧ condition.holds before after = true :=
  ⟨fun | .look h => ⟨rfl, h⟩, fun ⟨hw, h⟩ => hw ▸ .look h⟩

@[simp] theorem atom_iff {set : CharSet} :
    Matches (.atom set) before w after ↔ ∃ c, w = [c] ∧ set.contains c = true :=
  ⟨fun | .atom h => ⟨_, rfl, h⟩, fun ⟨_, hw, h⟩ => hw ▸ .atom h⟩

theorem seq_iff :
    Matches (.seq p q) before w after ↔
      ∃ u v, w = u ++ v ∧ Matches p before u (charAfter v after) ∧
        Matches q (charBefore before u) v after :=
  ⟨fun | .seq hp hq => ⟨_, _, rfl, hp, hq⟩, fun ⟨_, _, hw, hp, hq⟩ => hw ▸ .seq hp hq⟩

theorem alt_iff :
    Matches (.alt p q) before w after ↔ Matches p before w after ∨ Matches q before w after :=
  ⟨fun | .left h => .inl h | .right h => .inr h, fun | .inl h => .left h | .inr h => .right h⟩

theorem plus_iff :
    Matches (.plus isLazy p) before w after ↔
      ∃ u v, w = u ++ v ∧ Matches p before u (charAfter v after) ∧
        Matches (.star isLazy p) (charBefore before u) v after :=
  ⟨fun | .once hp hrest => ⟨_, _, rfl, hp, hrest⟩,
    fun ⟨_, _, hw, hp, hrest⟩ => hw ▸ .once hp hrest⟩

/-- A round that reads nothing can be left out, so the first one reads the first
character. -/
theorem star_cons_iff :
    Matches (.star isLazy p) before (c :: w) after ↔
      ∃ u v, w = u ++ v ∧ Matches p before (c :: u) (charAfter v after) ∧
        Matches (.star isLazy p) (charBefore (some c) u) v after := by
  constructor
  · intro h
    generalize hr : Regex.star isLazy p = r at h
    generalize hw : c :: w = w' at h
    induction h with
    | @again _ _ _ _ u v hp hrest _ ih =>
        cases hr
        cases u with
        | nil =>
            obtain rfl : c :: w = v := hw
            simpa using ih rfl rfl
        | cons d u =>
            obtain ⟨rfl, rfl⟩ := List.cons.inj hw
            exact ⟨u, v, rfl, hp, by simpa using hrest⟩
    | _ => simp_all
  · rintro ⟨u, v, rfl, hp, hrest⟩
    exact .again (u := c :: u) hp (by simpa using hrest)

theorem plus_cons_iff :
    Matches (.plus isLazy p) before (c :: w) after ↔
      Matches (.star isLazy p) before (c :: w) after := by
  rw [plus_iff, exists_cut_cons, star_cons_iff]
  simp [star_cons_iff]

theorem nil_iff {r : Regex} :
    Matches r before [] after ↔ r.nullable before after = true := by
  induction r generalizing before after with
  | seq p q ihp ihq =>
      rw [seq_iff, exists_cut_nil]
      simp [Regex.nullable, ihp, ihq]
  | alt p q ihp ihq => simp [alt_iff, Regex.nullable, ihp, ihq]
  | star _ p _ => exact ⟨fun _ => rfl, fun _ => .stop⟩
  | plus _ p ihp =>
      rw [plus_iff, exists_cut_nil]
      simp [Regex.nullable, ihp, stop]
  | _ => simp [Regex.nullable]

end Matches

def MatchesAll : List Regex → Option Char → List Char → Option Char → Prop
  | [], _, w, _ => w = []
  | r :: rs, before, w, after =>
      ∃ u v, w = u ++ v ∧ Matches r before u (charAfter v after) ∧
        MatchesAll rs (charBefore before u) v after

theorem matchesAll_append {rs ss : List Regex} {before after : Option Char} {w : List Char} :
    MatchesAll (rs ++ ss) before w after ↔
      ∃ u v, w = u ++ v ∧ MatchesAll rs before u (charAfter v after) ∧
        MatchesAll ss (charBefore before u) v after := by
  induction rs generalizing before w with
  | nil =>
      constructor
      · exact fun h => ⟨[], w, rfl, rfl, by simpa using h⟩
      · rintro ⟨_, v, rfl, rfl, h⟩
        simpa using h
  | cons r rs ih =>
      simp only [List.cons_append, MatchesAll, ih]
      constructor
      · rintro ⟨u, _, rfl, hr, x, y, rfl, hrs, hss⟩
        exact ⟨u ++ x, y, by simp, ⟨u, x, rfl, by simpa using hr, hrs⟩, by simpa using hss⟩
      · rintro ⟨_, y, rfl, ⟨u, x, rfl, hr, hrs⟩, hss⟩
        exact ⟨u, x ++ y, by simp, by simpa using hr, x, y, rfl, hrs, by simpa using hss⟩

theorem matches_concat_iff {rs : List Regex} {before after : Option Char} {w : List Char} :
    Matches (.concat rs) before w after ↔ MatchesAll rs before w after := by
  unfold Regex.concat
  fun_induction Regex.byHalves Regex.seq rs generalizing before w after with
  | case1 => simp [MatchesAll]
  | case2 r => simp [MatchesAll]
  | case3 =>
      rename_i ih₁ ih₂
      rw [Matches.seq_iff]
      simp only [ih₁, ih₂]
      rw [← matchesAll_append, List.take_append_drop]

theorem matches_choice_iff {rs : List Regex} {before after : Option Char} {w : List Char}
    (hrs : rs ≠ []) :
    Matches (.choice rs) before w after ↔ ∃ r ∈ rs, Matches r before w after := by
  unfold Regex.choice
  fun_induction Regex.byHalves Regex.alt rs with
  | case1 => exact absurd rfl hrs
  | case2 r => simp
  | case3 r₁ r₂ rs half ih₁ ih₂ =>
      rw [Matches.alt_iff, ih₁ (by simp [half]), ih₂ (by simp [half]; omega)]
      conv => rhs; rw [← List.take_append_drop half (r₁ :: r₂ :: rs)]
      simp only [List.mem_append, or_and_right, exists_or]

end RouteTable.Pattern
