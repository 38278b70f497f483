import RouteTable.Text.CaseVariant
/-!
# Sets of code points as intervals

Closed intervals of code points in ascending order, such that no two of them overlap or touch.
-/

namespace RouteTable.Text

namespace Intervals

/-- Adds an interval to some that are in order, and joins it with those that it touches. -/
def insert (new : Nat × Nat) : List (Nat × Nat) → List (Nat × Nat)
  | [] => [new]
  | old :: rest =>
      if new.2 + 1 < old.1 then new :: old :: rest
      else if old.2 + 1 < new.1 then old :: insert new rest
      else insert (min new.1 old.1, max new.2 old.2) rest

def union (xs ys : List (Nat × Nat)) : List (Nat × Nat) := xs.foldr insert ys

def lastPoint : Nat := 0x10ffff

def gapsFrom (point : Nat) : List (Nat × Nat) → List (Nat × Nat)
  | [] => if point ≤ lastPoint then [(point, lastPoint)] else []
  | (low, high) :: rest =>
      if point < low then (point, low - 1) :: gapsFrom (high + 1) rest
      else gapsFrom (high + 1) rest

def compl (xs : List (Nat × Nat)) : List (Nat × Nat) := gapsFrom 0 xs

def inter (xs ys : List (Nat × Nat)) : List (Nat × Nat) :=
  compl (union (compl xs) (compl ys))

def diff (xs ys : List (Nat × Nat)) : List (Nat × Nat) := inter xs (compl ys)

end Intervals

end RouteTable.Text
