import RouteTable.Data.Value
/-!
# JSON text

Data values as JSON, spread over lines with two blanks for each level.
-/

namespace RouteTable.Json

open RouteTable.Data

def hexDigit (n : Nat) : Char :=
  if n < 10 then Char.ofNat ('0'.toNat + n) else Char.ofNat ('a'.toNat + n - 10)

def escapeChar (c : Char) : List Char :=
  match c with
  | '\x22' => ['\\', '\x22']
  | '\\' => ['\\', '\\']
  | '\x08' => ['\\', 'b']
  | '\x0c' => ['\\', 'f']
  | '\n' => ['\\', 'n']
  | '\r' => ['\\', 'r']
  | '\t' => ['\\', 't']
  | c =>
      if c.toNat < 0x20 then
        ['\\', 'u', '0', '0', hexDigit (c.toNat / 16), hexDigit (c.toNat % 16)]
      else [c]

def quote (s : String) : List Char :=
  '\x22' :: s.toList.flatMap escapeChar ++ ['\x22']

def newLine (level : Nat) : List Char :=
  '\n' :: List.replicate (2 * level) ' '

/-- Items on lines of their own between two brackets. -/
def enclose (opening closing : Char) (level : Nat) (items : List (List Char)) : List Char :=
  if items = [] then [opening, closing]
  else
    let lines := items.map (newLine (level + 1) ++ ·)
    opening :: (lines.intersperse [',']).flatten ++ newLine level ++ [closing]

mutual

def print (level : Nat) : Value → List Char
  | .null => "null".toList
  | .bool b => (if b then "true" else "false").toList
  | .integer i => (toString i).toList
  | .real text => text.toList
  | .string text | .datetime text => quote text
  | .list items => enclose '[' ']' level (printItems (level + 1) items)
  | .table entries => enclose '{' '}' level (printEntries (level + 1) entries)

def printItems (level : Nat) : List Value → List (List Char)
  | [] => []
  | item :: rest => print level item :: printItems level rest

def printEntries (level : Nat) : List (String × Value) → List (List Char)
  | [] => []
  | (key, value) :: rest =>
      (quote key ++ ':' :: ' ' :: print level value) :: printEntries level rest

end

def pretty (v : Value) : String := String.ofList (print 0 v)

end RouteTable.Json
