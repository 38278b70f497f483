import RouteTable.Pattern.Token
/-!
# Reading a pattern

The tokens of a pattern text are put together from left to right, with the groups
that are still open kept on a stack.
-/

namespace RouteTable.Pattern

/-- A group that is still open, with the mode at the place reached. -/
structure OpenGroup where
  mode : Mode
  captures : Bool
  branches : List (Nested Program)
  parts : List (Nested Program)
  /-- The last part of the current branch, if a quantifier can apply to it. -/
  last : Option (Nested Program)

namespace OpenGroup

def new (mode : Mode) (captures : Bool := false) : OpenGroup := ⟨mode, captures, [], [], none⟩

def allParts (g : OpenGroup) : List (Nested Program) := g.last.toList ++ g.parts

def branch (g : OpenGroup) : Nested Program := .join .concat g.allParts.reverse

def value (g : OpenGroup) : Nested Program := .join .choice (g.branch :: g.branches).reverse

def push (part : Nested Program) (g : OpenGroup) : OpenGroup :=
  { g with parts := g.allParts, last := some part }

def nextBranch (g : OpenGroup) : OpenGroup :=
  { g with branches := g.branch :: g.branches, parts := [], last := none }

/-- Changes the mode.  The change has a place among the parts, where it matches
the empty word, but no quantifier applies to it. -/
def switch (mode : Mode) (g : OpenGroup) : OpenGroup :=
  { g with mode := mode, parts := .leaf .empty :: g.allParts, last := none }

def quantify (quantifier : Quantifier) (marked : Bool) (g : OpenGroup) : Option OpenGroup :=
  g.last.map fun part =>
    { g with last := some (part.around (quantifier.apply (marked != g.mode.swapped))) }

end OpenGroup

/-- A pattern that is being read: the innermost group, the groups around it, and
the names of groups that are taken. -/
structure Reading where
  current : OpenGroup
  outer : List OpenGroup
  names : List (List Char)

namespace Reading

def begin : Reading := ⟨.new .default, [], []⟩

def enter (kind : GroupKind) (mode : Mode) (s : Reading) : Option Reading :=
  if kind.name?.any s.names.contains then none
  else some ⟨.new mode (kind ≠ .plain), s.current :: s.outer, kind.name?.toList ++ s.names⟩

def leave (s : Reading) : Option Reading :=
  match s.outer with
  | [] => none
  | parent :: outer =>
      let part := s.current.value.around (Program.group s.current.captures)
      some ⟨parent.push part, outer, s.names⟩

def next (s : Reading) : Token → Option Reading
  | .openGroup kind mode => s.enter kind mode
  | .closeGroup => s.leave
  | .switch mode => some { s with current := s.current.switch mode }
  | .bar => some { s with current := s.current.nextBranch }
  | .quantifier quantifier marked =>
      (s.current.quantify quantifier marked).map fun group => { s with current := group }
  | .atom part => some { s with current := s.current.push part }

def run (s : Reading) (cs : List Char) : Option Reading :=
  if s.current.mode.skip cs = [] then some s
  else
    match _h : Token.next? s.current.mode (s.current.mode.skip cs) with
    | none => none
    | some (token, rest) =>
        match s.next token with
        | none => none
        | some s => s.run rest
termination_by cs.length
decreasing_by exact Nat.lt_of_lt_of_le (Token.length_of_next? ‹_›) (Mode.length_skip _ cs)

def maxDepth : Nat := 250

/-- What has been read, if no group is open and none is too deep. -/
def finish (s : Reading) : Option Program :=
  if s.outer.isEmpty ∧ s.current.value.depth ≤ maxDepth then some s.current.value.value
  else none

end Reading

def Program.read? (text : List Char) : Option Program :=
  (Reading.begin.run text).bind Reading.finish

/-- The pattern with this written form. -/
def Regex.read? (text : List Char) : Option Regex :=
  (Program.read? text).map (·.regex.get)

end RouteTable.Pattern
