import RouteTable.Pattern.Look
/-!
# Regular expressions

The patterns that paths are matched against.  A word is matched in its place:
the characters just before and just after it, if there are any, decide what the
conditions on a place say.
-/

namespace RouteTable.Pattern

inductive Regex where
  | empty
  | look (condition : Look)
  | atom (set : CharSet)
  | seq (first second : Regex)
  | alt (left right : Regex)
  /-- Any number of rounds.  If it is lazy, fewer of them are preferred. -/
  | star (isLazy : Bool) (body : Regex)
  | plus (isLazy : Bool) (body : Regex)
  deriving DecidableEq, Repr

namespace Regex

def opt (isLazy : Bool) (body : Regex) : Regex :=
  if isLazy then alt empty body else alt body empty

/-- Puts the patterns of a list together two by two.  The list is cut in the
middle, so that the result is not deep. -/
def byHalves (combine : Regex → Regex → Regex) (rs : List Regex) : Regex :=
  match rs with
  | [] => empty
  | [r] => r
  | r₁ :: r₂ :: rs =>
      let half := (rs.length + 2) / 2
      combine (byHalves combine ((r₁ :: r₂ :: rs).take half))
        (byHalves combine ((r₁ :: r₂ :: rs).drop half))
termination_by rs.length
decreasing_by
  all_goals simp only [List.length_take, List.length_drop, List.length_cons]
  all_goals omega

def concat (rs : List Regex) : Regex := byHalves seq rs

def choice (rs : List Regex) : Regex := byHalves alt rs

def times (n : Nat) (r : Regex) : Regex := concat (List.replicate n r)

def nested (isLazy : Bool) : Nat → Regex → Regex
  | 0, _ => empty
  | n + 1, r => opt isLazy (seq r (nested isLazy n r))

def maxNested : Nat := 1024

/-- A pattern at most so many times in a row.  If these are very many, each round
can be left out for itself, so that the result is not deep. -/
def upTo (isLazy : Bool) (n : Nat) (r : Regex) : Regex :=
  if n ≤ maxNested then nested isLazy n r else times n (opt isLazy r)

def nullable (before after : Option Char) : Regex → Bool
  | empty => true
  | look condition => condition.holds before after
  | atom _ => false
  | seq first second => first.nullable before after && second.nullable before after
  | alt left right => left.nullable before after || right.nullable before after
  | star _ _ => true
  | plus _ body => body.nullable before after

def isSkippable : Regex → Bool
  | empty | look _ | star _ _ => true
  | atom _ => false
  | seq first second => first.isSkippable && second.isSkippable
  | alt left right => left.isSkippable || right.isSkippable
  | plus _ body => body.isSkippable

end Regex

end RouteTable.Pattern
