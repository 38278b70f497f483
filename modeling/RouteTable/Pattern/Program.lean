import RouteTable.Pattern.Regex
import RouteTable.Text.ByteSequence
/-!
# Programs

The engine compiles a pattern to a program that reads a text from its beginning, and to one that
reads it from its end.  Both are automata over the bytes of UTF-8, and neither may take more than
a certain memory.  So every part of a pattern is kept with the memory that its states take, and
the pattern itself is only written out once it is asked for, as counted repetitions can make it
very large.
-/

namespace RouteTable.Pattern

open RouteTable.Text

/-- Bytes that the states of the two programs take. -/
@[ext] structure Memory where
  forward : Nat
  backward : Nat
  deriving DecidableEq, Repr

namespace Memory

def both (n : Nat) : Memory := ⟨n, n⟩

instance : Zero Memory := ⟨both 0⟩

instance : Add Memory := ⟨fun m n => ⟨m.forward + n.forward, m.backward + n.backward⟩⟩

def times (n : Nat) (m : Memory) : Memory := ⟨n * m.forward, n * m.backward⟩

@[simp] theorem forward_both (n : Nat) : (both n).forward = n := rfl

@[simp] theorem backward_both (n : Nat) : (both n).backward = n := rfl

@[simp] theorem forward_zero : (0 : Memory).forward = 0 := rfl

@[simp] theorem backward_zero : (0 : Memory).backward = 0 := rfl

@[simp] theorem forward_add (m n : Memory) : (m + n).forward = m.forward + n.forward := rfl

@[simp] theorem backward_add (m n : Memory) : (m + n).backward = m.backward + n.backward := rfl

def state : Memory := both 32

def fork (n : Nat) : Memory := both (32 + 4 * n)

end Memory

/-- What reading one character of a set takes.  The states of the forward program share their ends,
those of the backward one their beginnings. -/
def CharSet.memory (set : CharSet) : Memory :=
  match set.intervals with
  | [] => .both 64
  | (low, high) :: rest =>
      if rest = [] ∧ low = high then .both (32 * (Char.ofNat low).utf8Size)
      else if (rest.getLastD (low, high)).2 < 0x80 then .both (64 + 8 * (rest.length + 1))
      else
        let rows := ((low, high) :: rest).flatMap ByteSequence.ofInterval
        let states := (ByteSequence.ends 4 rows).eraseDups
        (states.map fun s => ⟨32 + 8 * (ByteSequence.branches s).length, 0⟩).sum +
          ⟨32, 64 + 4 * rows.length + 32 * ByteSequence.beginnings 4 rows⟩

/-- A part of a pattern with the memory of its states, whether it never reads a character, and
whether it need not read one: such parts are repeated in their own ways. -/
structure Program where
  regex : Thunk Regex
  isPlace : Bool
  isSkippable : Bool
  memory : Memory

namespace Program

def empty : Program := ⟨.pure .empty, true, true, 0⟩

def look (condition : Look) : Program := ⟨.pure (.look condition), true, true, .state⟩

def atom (set : CharSet) : Program := ⟨.pure (.atom set), false, false, set.memory⟩

/-- What a part takes that stands alone: nothing at all is a state too. -/
def alone (p : Program) : Memory := if p.memory = 0 then .state else p.memory

def concat (ps : List Program) : Program where
  regex := ⟨fun _ => .concat (ps.map (·.regex.get))⟩
  isPlace := ps.all (·.isPlace)
  isSkippable := ps.all (·.isSkippable)
  memory := (ps.map (·.memory)).sum

/-- Every branch is counted by itself.  The engine takes less where branches are single characters
or begin alike, as it joins these. -/
def choice : List Program → Program
  | [p] => p
  | ps => {
      regex := ⟨fun _ => .choice (ps.map (·.regex.get))⟩
      isPlace := ps.all (·.isPlace)
      isSkippable := ps.any (·.isSkippable)
      memory := .fork ps.length + .state + (ps.map alone).sum }

/-- A group.  Where it lies is only kept by the forward program. -/
def group (captures : Bool) (p : Program) : Program :=
  if captures then { p with memory := p.alone + ⟨64, 0⟩ } else p

@[simp] theorem regex_look (condition : Look) : (look condition).regex.get = .look condition := rfl

@[simp] theorem regex_concat (ps : List Program) :
    (concat ps).regex.get = .concat (ps.map (·.regex.get)) := rfl

@[simp] theorem choice_singleton (p : Program) : choice [p] = p := rfl

@[simp] theorem regex_group (captures : Bool) (p : Program) :
    (p.group captures).regex = p.regex := by
  cases captures <;> rfl

/-- What repeating a part takes: at least `low` times and, if there is a `high`, at most that
often. -/
def repeated (p : Program) (low : Nat) : Option Nat → Memory
  | none =>
      if 0 < low then .times low p.alone + .fork 2
      else if p.isSkippable then p.alone + .fork 2 + .fork 2 + .state
      else p.alone + .fork 2
  | some high =>
      if low = high then .times low p.alone
      else if high = 1 then .fork 2 + p.alone + .state
      else (if low = 0 then .state else .times low p.alone) + .state +
        .times (high - low) (.fork 2 + p.alone)

/-- What the programs of a whole pattern take, with the place where a search begins, the one where
it ends, and the two marks around what is found. -/
def total (p : Program) : Memory := p.alone + .state + .state + ⟨64, 0⟩

def maxMemory : Nat := 10 * 1024 * 1024

def fits (p : Program) : Bool :=
  p.total.forward ≤ maxMemory && p.total.backward ≤ maxMemory

end Program

inductive PatternError where
  | malformed
  | tooLarge
  deriving DecidableEq, Repr

/-- What the engine says.  It goes on with a picture of the place where a text is malformed, which
is left out. -/
def PatternError.message : PatternError → String
  | malformed => "regex parse error"
  | tooLarge => "Compiled regex exceeds size limit of " ++ toString Program.maxMemory ++ " bytes."

end RouteTable.Pattern
