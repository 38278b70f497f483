/-!
# Joining path segments

Segments are put side by side with one separator between each two.  Where two
segments meet, the separators that end the left one and begin the right one
collapse into one; separators inside a segment stay, and empty segments do not
count.
-/

namespace RouteTable.Path

def separator : Char := '/'

def trimEnd (sep : Char) (cs : List Char) : List Char :=
  (cs.reverse.dropWhile (· = sep)).reverse

def trimStart (sep : Char) (cs : List Char) : List Char :=
  cs.dropWhile (· = sep)

/-- The segment on the left and those after it, cut so that they can be put side by side.
Each is cut at its end only after its beginning, where the one before it has left one
separator. -/
def fit (sep : Char) (left : List Char) : List (List Char) → List (List Char)
  | [] => [left]
  | right :: rest => trimEnd sep left :: fit sep (sep :: trimStart sep right) rest

def joinWith (sep : Char) (segments : List String) : String :=
  match (segments.map String.toList).filter (· ≠ []) with
  | [] => ""
  | first :: rest => String.ofList (fit sep first rest).flatten

def join (segments : List String) : String :=
  joinWith separator segments

end RouteTable.Path
