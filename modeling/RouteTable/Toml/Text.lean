/-!
# Blanks, lines and comments

The parts of a TOML text that carry no value.
-/

namespace RouteTable.Toml

/-- A reader takes a value from the front of a text and leaves the rest. -/
abbrev Reader (α : Type) := List Char → Option (α × List Char)

def isBlank (c : Char) : Bool := c = ' ' || c = '\t'

def isPrintable (c : Char) : Bool :=
  c = '\t' || (0x20 ≤ c.toNat && c.toNat ≠ 0x7f)

def skipBlanks (cs : List Char) : List Char := cs.dropWhile isBlank

def newline? : List Char → Option (List Char)
  | '\n' :: cs => some cs
  | '\r' :: '\n' :: cs => some cs
  | _ => none

def skipComment : List Char → List Char
  | '#' :: cs => cs.dropWhile isPrintable
  | cs => cs

/-- The text after the rest of a line that holds no value: blanks, a comment and
the line end or the end of the text. -/
def lineEnd? (cs : List Char) : Option (List Char) :=
  match skipComment (skipBlanks cs) with
  | [] => some []
  | rest => newline? rest

def skipLines (cs : List Char) : List Char :=
  go cs.length (skipBlanks cs)
where
  go : Nat → List Char → List Char
    | 0, cs => cs
    | fuel + 1, cs =>
        match newline? (skipComment cs) with
        | some rest => go fuel (skipBlanks rest)
        | none => cs

end RouteTable.Toml
