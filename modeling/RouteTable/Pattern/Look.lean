import RouteTable.Pattern.CharClass
/-!
# Conditions on a place

A place in a text lies between two characters, or at an end of the text where
one of them is missing.  What a pattern can ask of a place depends on these two
only.
-/

namespace RouteTable.Pattern

/-- How a place can lie to the words around it. -/
inductive WordEdge where
  | boundary
  | noBoundary
  | start
  | stop
  | startHalf
  | stopHalf
  deriving DecidableEq, Repr

def WordEdge.holds (before after : Bool) : WordEdge → Bool
  | boundary => before != after
  | noBoundary => before == after
  | start => !before && after
  | stop => before && !after
  | startHalf => !before
  | stopHalf => !after

inductive Look where
  | textStart
  | textEnd
  | lineStart
  | lineEnd
  /-- The beginning of a line, where a line feed, a carriage return or both of
  them end a line. -/
  | returnLineStart
  | returnLineEnd
  | wordEdge (edge : WordEdge) (word : CharSet)
  deriving DecidableEq, Repr

namespace Look

/-- Whether the condition holds between two characters. -/
def holds (before after : Option Char) : Look → Bool
  | textStart => before.isNone
  | textEnd => after.isNone
  | lineStart => before.all (· = '\n')
  | lineEnd => after.all (· = '\n')
  | returnLineStart => before.all fun c => c = '\n' || c = '\r' && after != some '\n'
  | returnLineEnd => after.all fun c => c = '\r' || c = '\n' && before != some '\r'
  | wordEdge edge word => edge.holds (before.any word.contains) (after.any word.contains)

end Look

end RouteTable.Pattern
