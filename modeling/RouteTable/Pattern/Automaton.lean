import RouteTable.Pattern.Regex
/-!
# Preferred matches

Among the words that a pattern matches from a place on, the written form says
which one to prefer: the left side of a bar, and many rounds or few of them.  An
automaton tries them all side by side and keeps its states in that order.
-/

namespace RouteTable.Pattern

inductive Step where
  | accept
  | read (set : CharSet) (next : Nat)
  | look (condition : Look) (next : Nat)
  | fork (first second : Nat)
  deriving DecidableEq, Repr

/-- An automaton, with its states numbered. -/
structure Automaton where
  steps : Array Step
  start : Nat
  deriving Repr

def Step.choice (isLazy : Bool) (again next : Nat) : Step :=
  if isLazy then fork next again else fork again next

def addStep (steps : Array Step) (step : Step) : Nat × Array Step :=
  (steps.size, steps.push step)

/-- Adds states that match a pattern and then go on in state `next`.  Gives the
number of the first one. -/
def addRegex (next : Nat) (steps : Array Step) : Regex → Nat × Array Step
  | .empty => (next, steps)
  | .look condition => addStep steps (.look condition next)
  | .atom set => addStep steps (.read set next)
  | .seq p q =>
      let (second, steps) := addRegex next steps q
      addRegex second steps p
  | .alt p q =>
      let (right, steps) := addRegex next steps q
      let (left, steps) := addRegex next steps p
      addStep steps (.fork left right)
  | .star isLazy p =>
      let (loop, steps) := addStep steps .accept
      let (body, steps) := addRegex loop steps p
      let steps := steps.setIfInBounds loop (.choice isLazy body next)
      -- A round that can be empty must not lead back to where it began.
      if p.isSkippable then addStep steps (.choice isLazy body next) else (loop, steps)
  | .plus isLazy p =>
      let (loop, steps) := addStep steps .accept
      let (body, steps) := addRegex loop steps p
      (body, steps.setIfInBounds loop (.choice isLazy body next))

def Automaton.ofRegex (r : Regex) : Automaton :=
  let (start, steps) := addRegex 0 #[.accept] r
  ⟨steps, start⟩

namespace Automaton

/-- The sets that can be read from some states on, each with the state behind it,
in the order of preference, and whether a word can end there.  What comes after
that end is left out.  No state is visited twice; with that, `fuel` counts the
visits. -/
def settle (a : Automaton) (before after : Option Char) (fuel : Nat) (seen : Array Bool)
    (found : List (CharSet × Nat)) (states : List Nat) : List (CharSet × Nat) × Bool :=
  match fuel, states with
  | fuel + 1, state :: states =>
      if seen.getD state true then a.settle before after fuel seen found states
      else
        let seen := seen.setIfInBounds state true
        match a.steps[state]? with
        | none => a.settle before after fuel seen found states
        | some .accept => (found.reverse, true)
        | some (.read set next) => a.settle before after fuel seen ((set, next) :: found) states
        | some (.look condition next) =>
            let states := if condition.holds before after then next :: states else states
            a.settle before after fuel seen found states
        | some (.fork first second) =>
            a.settle before after fuel seen found (first :: second :: states)
  | _, _ => (found.reverse, false)

/-- The length of the preferred word that goes on in one of the states, which have
been reached after `count` characters; `best` is one that has ended before. -/
def run (a : Automaton) (before : Option Char) (states : List Nat) (count : Nat)
    (best : Option Nat) (cs : List Char) : Option Nat :=
  let fuel := states.length + 2 * a.steps.size + 1
  let (sets, ended) :=
    a.settle before cs.head? fuel (Array.replicate a.steps.size false) [] states
  let best := if ended then some count else best
  match cs with
  | [] => best
  | c :: cs =>
      match sets.filterMap fun (set, next) => if set.contains c then some next else none with
      | [] => best
      | states => a.run (some c) states (count + 1) best cs

def preferred? (a : Automaton) (before : Option Char) (text : List Char) : Option Nat :=
  a.run before [a.start] 0 none text

end Automaton

end RouteTable.Pattern
