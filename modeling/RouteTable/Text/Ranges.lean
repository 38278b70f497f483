/-!
# Ranges of code points

Sets of characters in the form in which a standard gives them: closed ranges of
code points, in ascending order and apart, so that they can be searched by
halves.
-/

namespace RouteTable.Text

/-- Closed ranges of code points, in ascending order and apart. -/
structure Ranges where
  bounds : Array (Nat × Nat)
  deriving DecidableEq, Repr

namespace Ranges

/-- Whether a code point is in one of the ranges from number `low` up to, and
without, number `high`. -/
def search (ranges : Ranges) (point low high : Nat) : Bool :=
  if _h : low < high then
    let middle := (low + high) / 2
    match ranges.bounds[middle]? with
    | none => false
    | some (first, last) =>
        if point < first then ranges.search point low middle
        else if last < point then ranges.search point (middle + 1) high
        else true
  else false
termination_by high - low

def contains (ranges : Ranges) (c : Char) : Bool :=
  ranges.search c.toNat 0 ranges.bounds.size

end Ranges

end RouteTable.Text
