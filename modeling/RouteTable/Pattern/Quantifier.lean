import RouteTable.Pattern.Mode
import RouteTable.Pattern.Program
import RouteTable.Text.Hex
/-!
# Quantifiers

How often a part of a pattern can follow upon itself.
-/

namespace RouteTable.Pattern

open RouteTable.Text

inductive Quantifier where
  | star
  | plus
  | opt
  | count (low : Nat) (high : Option Nat)
  deriving DecidableEq, Repr

namespace Quantifier

def bounds : Quantifier → Nat × Option Nat
  | star => (0, none)
  | plus => (1, none)
  | opt => (0, some 1)
  | count low high => (low, high)

def regex (isLazy : Bool) (r : Regex) : Nat × Option Nat → Regex
  | (0, none) => .star isLazy r
  | (1, none) => .plus isLazy r
  | (low + 1, none) => .concat [.times low r, .plus isLazy r]
  | (0, some 1) => .opt isLazy r
  | (low, some high) => .concat [.times low r, .upTo isLazy (high - low) r]

/-- Repeats a part within some bounds.  One round is the part itself, and none is nothing. -/
def within (isLazy : Bool) (p : Program) : Nat × Option Nat → Program
  | (_, some 0) => .empty
  | (1, some 1) => p
  | (low, high) => {
      regex := ⟨fun _ => regex isLazy p.regex.get (low, high)⟩
      isPlace := p.isPlace
      isSkippable := p.isSkippable || low = 0
      memory := p.repeated low high }

/-- Repeats a part.  Where only the empty word can match, further rounds make no difference, and
they are left out. -/
def apply (isLazy : Bool) (q : Quantifier) (p : Program) : Program :=
  let (low, high) := q.bounds
  within isLazy p (if p.isPlace then (min low 1, some (min (high.getD 1) 1)) else (low, high))

/-- A decimal number of 32 bits with white space around it. -/
def number32? (mode : Mode) (cs : List Char) : Option (Nat × List Char) := do
  let (digits, rest) := mode.span Char.isDigit (cs.dropWhile isWhiteSpace)
  let n ← number? 10 digits
  guard (n < 0x100000000)
  return (n, rest.dropWhile isWhiteSpace)

def closing? (low high : Nat) : List Char → Option (Quantifier × List Char)
  | '}' :: rest => if low ≤ high then some (count low (some high), rest) else none
  | _ => none

def upper? (mode : Mode) (low : Nat) (cs : List Char) : Option (Quantifier × List Char) :=
  (number32? mode cs).bind fun (high, rest) => closing? low high rest

def afterComma? (mode : Mode) (low : Nat) : List Char → Option (Quantifier × List Char)
  | '}' :: rest => some (count low none, rest)
  | cs => upper? mode low cs

def afterLow? (mode : Mode) (low : Nat) : List Char → Option (Quantifier × List Char)
  | '}' :: rest => some (count low (some low), rest)
  | ',' :: rest => afterComma? mode low (mode.skip rest)
  | _ => none

def count? (mode : Mode) (cs : List Char) : Option (Quantifier × List Char) :=
  (number32? mode (mode.skip cs)).bind fun (low, rest) => afterLow? mode low rest

def preference : List Char → Bool × List Char
  | '?' :: cs => (true, cs)
  | cs => (false, cs)

theorem suffix_of_number32? {mode : Mode} {cs rest : List Char} {n : Nat}
    (h : number32? mode cs = some (n, rest)) : rest <:+ cs := by
  obtain ⟨_, _, h⟩ := Option.bind_eq_some_iff.1 h
  obtain ⟨_, _, heq⟩ := Option.bind_eq_some_iff.1 h
  cases heq
  exact (List.dropWhile_suffix _).trans <|
    (mode.suffix_span _ _).trans (List.dropWhile_suffix _)

theorem suffix_of_closing? {low high : Nat} {cs rest : List Char} {q : Quantifier}
    (h : closing? low high cs = some (q, rest)) : rest <:+ cs := by
  unfold closing? at h
  split at h
  · split at h
    · cases h
      exact List.suffix_cons _ _
    · simp at h
  · simp at h

theorem suffix_of_upper? {mode : Mode} {low : Nat} {cs rest : List Char} {q : Quantifier}
    (h : upper? mode low cs = some (q, rest)) : rest <:+ cs := by
  obtain ⟨⟨_, _⟩, hhigh, hclosing⟩ := Option.bind_eq_some_iff.1 h
  exact (suffix_of_closing? hclosing).trans (suffix_of_number32? hhigh)

theorem suffix_of_afterComma? {mode : Mode} {low : Nat} {cs rest : List Char} {q : Quantifier}
    (h : afterComma? mode low cs = some (q, rest)) : rest <:+ cs := by
  unfold afterComma? at h
  split at h
  · cases h
    exact List.suffix_cons _ _
  · exact suffix_of_upper? h

theorem suffix_of_afterLow? {mode : Mode} {low : Nat} {cs rest : List Char} {q : Quantifier}
    (h : afterLow? mode low cs = some (q, rest)) : rest <:+ cs := by
  unfold afterLow? at h
  split at h
  · cases h
    exact List.suffix_cons _ _
  · exact (suffix_of_afterComma? h).trans ((mode.suffix_skip _).trans (List.suffix_cons _ _))
  · simp at h

theorem suffix_of_count? {mode : Mode} {cs rest : List Char} {q : Quantifier}
    (h : count? mode cs = some (q, rest)) : rest <:+ cs := by
  obtain ⟨⟨_, _⟩, hlow, hafter⟩ := Option.bind_eq_some_iff.1 h
  exact (suffix_of_afterLow? hafter).trans ((suffix_of_number32? hlow).trans (mode.suffix_skip cs))

theorem suffix_preference (cs : List Char) : (preference cs).2 <:+ cs := by
  unfold preference
  split
  · exact List.suffix_cons _ _
  · exact List.suffix_refl _

end Quantifier

end RouteTable.Pattern
