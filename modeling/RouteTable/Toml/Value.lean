import RouteTable.Toml.Moment
import RouteTable.Toml.Number
import RouteTable.Toml.Quoted
import RouteTable.Toml.Tree
/-!
# Keys and values

Dotted keys, and the values that stand behind them: texts, numbers, dates,
arrays and inline tables.
-/

namespace RouteTable.Toml

open RouteTable.Data

/-- The number of levels that values may be nested, and of parts that a key may
have. -/
def nestingLimit : Nat := 79

def isBareKeyChar (c : Char) : Bool := c.isAlphanum || c = '_' || c = '-'

def keyPart? (cs : List Char) : Option (String × List Char) :=
  match cs with
  | '\x22' :: _ | '\x27' :: _ => quotedLineText? cs
  | _ =>
      let word := cs.takeWhile isBareKeyChar
      if word = [] then none else some (String.ofList word, cs.dropWhile isBareKeyChar)

def keyParts? (fuel : Nat) : Reader (List String) := fun cs =>
  match fuel with
  | 0 => none
  | fuel + 1 => do
      let (part, cs) ← keyPart? (skipBlanks cs)
      match skipBlanks cs with
      | '.' :: cs =>
          let (parts, cs) ← keyParts? fuel cs
          return (part :: parts, cs)
      | cs => return ([part], cs)

def key? : Reader (List String) := keyParts? nestingLimit

def isScalarChar (c : Char) : Bool :=
  c.isAlphanum || c = '_' || c = '+' || c = '-' || c = '.' || c = ':'

def word? (cs : List Char) : Option Value :=
  if cs = "true".toList then some (.bool true)
  else if cs = "false".toList then some (.bool false)
  else match moment? cs with
    | some text => some (.datetime (String.ofList text))
    | none => real? cs <|> (integer? cs).map .integer

def unquoted? : Reader Value := fun cs => do
  let word := cs.takeWhile isScalarChar
  match date? word, cs.dropWhile isScalarChar with
  | some (_, []), ' ' :: c :: rest =>
      if c.isDigit then
        let time := (c :: rest).takeWhile isScalarChar
        let value ← word? (word ++ 'T' :: time)
        return (value, (c :: rest).dropWhile isScalarChar)
      else do
        let value ← word? word
        return (value, ' ' :: c :: rest)
  | _, rest =>
      let value ← word? word
      return (value, rest)

def arrayItems? (item? : Reader Value) (fuel : Nat) : Reader (List Value) := fun cs =>
  match fuel with
  | 0 => none
  | fuel + 1 =>
      match skipLines cs with
      | ']' :: cs => some ([], cs)
      | cs => do
          let (item, cs) ← item? cs
          match skipLines cs with
          | ',' :: cs =>
              let (items, cs) ← arrayItems? item? fuel cs
              return (item :: items, cs)
          | ']' :: cs => return ([item], cs)
          | _ => none

def keyValue? (value? : Reader Value) : Reader (List String × Value) := fun cs => do
  let (key, cs) ← key? cs
  match cs with
  | '=' :: cs =>
      let (value, cs) ← value? (skipBlanks cs)
      return ((key, value), skipBlanks cs)
  | _ => none

def tableEntries? (value? : Reader Value) (fuel : Nat) (items : Items) : Reader Items :=
  fun cs =>
    match fuel with
    | 0 => none
    | fuel + 1 => do
        let ((key, value), cs) ← keyValue? value? cs
        let items ← items.insertDotted key value
        match cs with
        | ',' :: cs => tableEntries? value? fuel items cs
        | '}' :: cs => return (items, cs)
        | _ => none

def inlineTable? (value? : Reader Value) : Reader Value := fun cs =>
  match skipBlanks cs with
  | '}' :: cs => some (.table [], cs)
  | cs => do
      let (items, cs) ← tableEntries? value? (cs.length + 1) [] cs
      return (.table (itemValues items), cs)

/-- A value with at most this many levels of arrays and inline tables. -/
def valueWithin? (levels : Nat) : Reader Value := fun cs =>
  match cs with
  | '\x22' :: _ | '\x27' :: _ => (quotedText? cs).map (Prod.map .string id)
  | '[' :: cs =>
      match levels with
      | 0 => none
      | levels + 1 =>
          (arrayItems? (valueWithin? levels) (cs.length + 1) cs).map (Prod.map .list id)
  | '\x7b' :: cs =>
      match levels with
      | 0 => none
      | levels + 1 => inlineTable? (valueWithin? levels) cs
  | cs => unquoted? cs

def value? : Reader Value := valueWithin? nestingLimit

end RouteTable.Toml
