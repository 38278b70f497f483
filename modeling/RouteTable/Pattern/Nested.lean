/-!
# Nesting

How deeply the written form of a pattern, or of a bracketed set, is nested.  A
bracket, a quantifier or a set operation is one level deeper than what it applies
to, and several pieces in a row are one level deeper than the deepest of them.
-/

namespace RouteTable.Pattern

/-- A value with the depth to which its written form is nested. -/
structure Nested (α : Type) where
  value : α
  depth : Nat
  deriving DecidableEq, Repr

namespace Nested

variable {α β : Type}

def leaf (value : α) : Nested α := ⟨value, 0⟩

/-- The depth of some pieces in a row; one alone makes no level. -/
def joinedDepth : List Nat → Nat
  | [] => 0
  | [depth] => depth
  | depths => depths.foldr max 0 + 1

def join (combine : List α → β) (pieces : List (Nested α)) : Nested β :=
  ⟨combine (pieces.map (·.value)), joinedDepth (pieces.map (·.depth))⟩

def around (f : α → β) (piece : Nested α) : Nested β := ⟨f piece.value, piece.depth + 1⟩

def between (f : α → α → β) (left right : Nested α) : Nested β :=
  ⟨f left.value right.value, max left.depth right.depth + 1⟩

@[simp] theorem value_leaf (value : α) : (leaf value).value = value := rfl

@[simp] theorem value_join (combine : List α → β) (pieces : List (Nested α)) :
    (join combine pieces).value = combine (pieces.map (·.value)) := rfl

@[simp] theorem value_around (f : α → β) (piece : Nested α) :
    (piece.around f).value = f piece.value := rfl

@[simp] theorem value_between (f : α → α → β) (left right : Nested α) :
    (between f left right).value = f left.value right.value := rfl

end Nested

end RouteTable.Pattern
