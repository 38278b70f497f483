import RouteTable.Text.Intervals
import RouteTable.Text.Ranges
/-!
# Sets of characters

What one place of a pattern can hold: ranges of characters, combined by the
operations of set algebra.
-/

namespace RouteTable.Pattern

open RouteTable.Text

inductive CharSet where
  | ranges (bounds : List (Char × Char))
  | table (characters : Ranges)
  | union (left right : CharSet)
  | inter (left right : CharSet)
  | diff (left right : CharSet)
  | symmDiff (left right : CharSet)
  | compl (set : CharSet)
  /-- The characters of a set with those that differ from one of them in case only. -/
  | caseless (set : CharSet)
  deriving DecidableEq, Repr

namespace CharSet

def contains : CharSet → Char → Bool
  | ranges bounds, c => bounds.any fun (low, high) => low ≤ c && c ≤ high
  | table characters, c => characters.contains c
  | union left right, c => left.contains c || right.contains c
  | inter left right, c => left.contains c && right.contains c
  | diff left right, c => left.contains c && !right.contains c
  | symmDiff left right, c => left.contains c != right.contains c
  | compl set, c => !set.contains c
  | caseless set, c => set.contains c || (caseVariants c).any set.contains

def intervals : CharSet → List (Nat × Nat)
  | ranges bounds => Intervals.union (bounds.map fun (low, high) => (low.toNat, high.toNat)) []
  | table characters => Intervals.union characters.bounds.toList []
  | union left right => Intervals.union left.intervals right.intervals
  | inter left right => Intervals.inter left.intervals right.intervals
  | diff left right => Intervals.diff left.intervals right.intervals
  | symmDiff left right =>
      Intervals.union (Intervals.diff left.intervals right.intervals)
        (Intervals.diff right.intervals left.intervals)
  | compl set => Intervals.compl set.intervals
  | caseless set =>
      let others := casePoints.filter fun n => (caseless set).contains (Char.ofNat n)
      Intervals.union (others.map fun n => (n, n)) set.intervals

def empty : CharSet := ranges []

def single (c : Char) : CharSet := ranges [(c, c)]

def range (low high : Char) : CharSet := ranges [(low, high)]

def ofList (cs : List Char) : CharSet := ranges (cs.map fun c => (c, c))

def unions : List CharSet → CharSet
  | [] => empty
  | [set] => set
  | set :: sets => union set (unions sets)

def anyButNewline : CharSet := compl (single '\n')

@[simp] theorem contains_single (c d : Char) : (single d).contains c = decide (c = d) := by
  simp only [single, contains, List.any_cons, List.any_nil, Bool.or_false]
  rw [← Bool.decide_and]
  exact decide_eq_decide.2 ⟨fun h => Char.le_antisymm h.2 h.1, fun h => by simp [h]⟩

@[simp] theorem contains_anyButNewline (c : Char) :
    anyButNewline.contains c = !decide (c = '\n') := by
  simp [anyButNewline, contains]

end CharSet

end RouteTable.Pattern
