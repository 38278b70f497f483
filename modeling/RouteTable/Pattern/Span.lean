import RouteTable.Pattern.Automaton
import RouteTable.Text.Width
/-!
# Occurrences of a pattern

The places at which a pattern occurs in a text, from left to right and without
overlap.  Each occurrence begins as early as it can, and is the word that the
pattern prefers from there.
-/

namespace RouteTable.Pattern

open RouteTable.Text

structure Span where
  start : Nat
  stop : Nat
  deriving DecidableEq, Repr

def Span.covers (s : Span) (offset : Nat) : Bool :=
  s.start ≤ offset && offset < s.stop

/-- The occurrences from `offset` on, where `before` is the character just before.
An empty occurrence may not touch the end of the one before it, which `previous`
holds. -/
def Automaton.spansFrom (a : Automaton) (before : Option Char) (previous : Option Nat)
    (offset : Nat) (cs : List Char) : List Span :=
  match cs with
  | [] =>
      if a.preferred? before [] = some 0 ∧ previous ≠ some offset then
        [⟨offset, offset⟩]
      else []
  | c :: cs =>
      match a.preferred? before (c :: cs) with
      | some (n + 1) =>
          let found := (c :: cs).take (n + 1)
          let stop := offset + width found
          ⟨offset, stop⟩ :: a.spansFrom found.getLast? (some stop) stop (cs.drop n)
      | some 0 =>
          let rest := a.spansFrom (some c) previous (offset + c.utf8Size) cs
          if previous = some offset then rest else ⟨offset, offset⟩ :: rest
      | none => a.spansFrom (some c) previous (offset + c.utf8Size) cs
termination_by cs.length
decreasing_by
  all_goals simp only [List.length_drop, List.length_cons]
  all_goals omega

def Regex.spans (r : Regex) (text : String) : List Span :=
  (Automaton.ofRegex r).spansFrom none none 0 text.toList

end RouteTable.Pattern
