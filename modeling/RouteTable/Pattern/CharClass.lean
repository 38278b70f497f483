import RouteTable.Pattern.CharSet
import RouteTable.Text.Category
import RouteTable.Text.WhiteSpace
/-!
# Classes of characters

The sets of characters that have a name of their own in a pattern.
-/

namespace RouteTable.Pattern

open RouteTable.Text

namespace CharSet

def ofTables (tables : List Ranges) : CharSet := unions (tables.map table)

def ascii : CharSet := range '\x00' '\x7f'

def any : CharSet := compl empty

def digit : CharSet := table decimalNumbers

def space : CharSet := table whiteSpace

def asciiSpace : CharSet := ranges [('\t', '\r'), (' ', ' ')]

def asciiWord : CharSet := ranges [('0', '9'), ('A', 'Z'), ('_', '_'), ('a', 'z')]

def joiners : CharSet := range '\u200c' '\u200d'

/-- The characters of words: alphabetic ones, marks, decimal digits, connectors
and joiners. -/
def word : CharSet :=
  union asciiWord
    (inter (compl ascii)
      (union joiners (ofTables (alphabetic ++ marks ++ [decimalNumbers, connectorPunctuation]))))

def asciiClass? : String → Option CharSet
  | "alnum" => some (ranges [('0', '9'), ('A', 'Z'), ('a', 'z')])
  | "alpha" => some (ranges [('A', 'Z'), ('a', 'z')])
  | "ascii" => some ascii
  | "blank" => some (ofList ['\t', ' '])
  | "cntrl" => some (ranges [('\x00', '\x1f'), ('\x7f', '\x7f')])
  | "digit" => some (range '0' '9')
  | "graph" => some (range '!' '~')
  | "lower" => some (range 'a' 'z')
  | "print" => some (range ' ' '~')
  | "punct" => some (ranges [('!', '/'), (':', '@'), ('[', '\x60'), ('{', '~')])
  | "space" => some asciiSpace
  | "upper" => some (range 'A' 'Z')
  | "word" => some asciiWord
  | "xdigit" => some (ranges [('0', '9'), ('A', 'F'), ('a', 'f')])
  | _ => none

end CharSet

end RouteTable.Pattern
