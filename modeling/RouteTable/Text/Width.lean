/-!
# Byte offsets

Places in a text are counted in bytes of its UTF-8 encoding, so that an offset
means the same to every reader of the text.
-/

namespace RouteTable.Text

/-- The number of bytes that the UTF-8 encoding of the characters takes. -/
def width : List Char → Nat
  | [] => 0
  | c :: cs => c.utf8Size + width cs

def offsetOf? (c : Char) : List Char → Option Nat
  | [] => none
  | d :: ds => if d = c then some 0 else (offsetOf? c ds).map (d.utf8Size + ·)

/-- The text before and after a byte offset. -/
def splitAtOffset (offset : Nat) : List Char → List Char × List Char
  | [] => ([], [])
  | c :: cs =>
      if offset = 0 then ([], c :: cs)
      else
        let (front, back) := splitAtOffset (offset - c.utf8Size) cs
        (c :: front, back)

@[simp] theorem width_nil : width [] = 0 := rfl

@[simp] theorem width_cons (c : Char) (cs : List Char) :
    width (c :: cs) = c.utf8Size + width cs := rfl

@[simp] theorem width_append (xs ys : List Char) :
    width (xs ++ ys) = width xs + width ys := by
  induction xs with
  | nil => simp
  | cons c xs ih => simp [ih, Nat.add_assoc]

theorem width_replicate {c : Char} (hc : c.utf8Size = 1) (n : Nat) :
    width (List.replicate n c) = n := by
  induction n with
  | zero => rfl
  | succ n ih => rw [List.replicate_succ, width_cons, ih, hc, Nat.add_comm]

@[simp] theorem width_toList (s : String) : width s.toList = s.utf8ByteSize := by
  obtain ⟨cs, rfl⟩ : ∃ cs, s = String.ofList cs := ⟨s.toList, by simp⟩
  rw [String.toList_ofList]
  induction cs with
  | nil => rfl
  | cons c cs ih =>
      rw [width_cons, ih, String.ofList_cons, String.utf8ByteSize_append,
        String.utf8ByteSize_singleton]

@[simp] theorem splitAtOffset_zero (cs : List Char) : splitAtOffset 0 cs = ([], cs) := by
  cases cs <;> rfl

theorem splitAtOffset_append (xs ys : List Char) :
    splitAtOffset (width xs) (xs ++ ys) = (xs, ys) := by
  induction xs with
  | nil => simp
  | cons c xs ih =>
      have hpos := c.utf8Size_pos
      simp only [List.cons_append, splitAtOffset, width_cons, Nat.add_sub_cancel_left, ih]
      rw [if_neg (by omega)]

theorem splitAtOffset_cons {offset : Nat} {c : Char} (cs : List Char)
    (h : c.utf8Size ≤ offset) :
    splitAtOffset offset (c :: cs) =
      (c :: (splitAtOffset (offset - c.utf8Size) cs).1,
        (splitAtOffset (offset - c.utf8Size) cs).2) := by
  have hpos := c.utf8Size_pos
  rw [splitAtOffset, if_neg (by omega)]

theorem offsetOf?_eq_none_iff (c : Char) (cs : List Char) :
    offsetOf? c cs = none ↔ c ∉ cs := by
  induction cs with
  | nil => simp [offsetOf?]
  | cons d ds ih =>
      by_cases h : d = c
      · simp [offsetOf?, h]
      · simp [offsetOf?, h, ih, Ne.symm h]

theorem offsetOf?_eq_some {c : Char} {cs : List Char} {n : Nat}
    (h : offsetOf? c cs = some n) :
    ∃ front back, cs = front ++ c :: back ∧ c ∉ front ∧ n = width front := by
  induction cs generalizing n with
  | nil => simp [offsetOf?] at h
  | cons d ds ih =>
      by_cases hd : d = c
      · subst hd
        have hn : n = 0 := by simpa [offsetOf?] using h.symm
        exact ⟨[], ds, rfl, by simp, by simpa using hn⟩
      · rw [offsetOf?, if_neg hd, Option.map_eq_some_iff] at h
        obtain ⟨m, hm, rfl⟩ := h
        obtain ⟨front, back, rfl, hfront, rfl⟩ := ih hm
        exact ⟨d :: front, back, rfl, by simp [Ne.symm hd, hfront], rfl⟩

theorem offsetOf?_append {c : Char} {front : List Char} (h : c ∉ front) (back : List Char) :
    offsetOf? c (front ++ c :: back) = some (width front) := by
  induction front with
  | nil => simp [offsetOf?]
  | cons d ds ih =>
      simp only [List.mem_cons, not_or] at h
      simp [offsetOf?, Ne.symm h.1, ih h.2]

end RouteTable.Text
