import RouteTable.Text.Hex
import RouteTable.Toml.Text
/-!
# Quoted texts

The four ways of quoting a text: with escapes or literally, on one line or on
several.
-/

namespace RouteTable.Toml

open RouteTable.Text

def escape? : Reader Char
  | 'b' :: cs => some ('\x08', cs)
  | 't' :: cs => some ('\t', cs)
  | 'n' :: cs => some ('\n', cs)
  | 'f' :: cs => some ('\x0c', cs)
  | 'r' :: cs => some ('\r', cs)
  | '\x22' :: cs => some ('\x22', cs)
  | '\\' :: cs => some ('\\', cs)
  | 'u' :: cs => fixedCodePoint? 4 cs
  | 'U' :: cs => fixedCodePoint? 8 cs
  | _ => none

/-- The rest of a text of one line up to `quote`.  With `escapes`, a backslash
begins an escape. -/
def quotedLine? (quote : Char) (escapes : Bool) (fuel : Nat) : Reader (List Char) :=
  fun cs =>
    match fuel, cs with
    | 0, _ => none
    | _, [] => none
    | fuel + 1, c :: cs =>
        if c = quote then some ([], cs)
        else if escapes && c = '\\' then do
          let (d, cs) ← escape? cs
          let (text, cs) ← quotedLine? quote escapes fuel cs
          return (d :: text, cs)
        else if isPrintable c then do
          let (text, cs) ← quotedLine? quote escapes fuel cs
          return (c :: text, cs)
        else none

def lineContinuation? (cs : List Char) : Option (List Char) :=
  (newline? (skipBlanks cs)).map (skipBlankLines cs.length)
where
  skipBlankLines : Nat → List Char → List Char
    | 0, cs => cs
    | fuel + 1, cs =>
        match newline? (skipBlanks cs) with
        | some rest => skipBlankLines fuel rest
        | none => skipBlanks cs

/-- The rest of a text of several lines up to three times `quote`.  Up to two
more of them right before the end belong to the text. -/
def quotedLines? (quote : Char) (escapes : Bool) (fuel : Nat) : Reader (List Char) :=
  fun cs =>
    match fuel with
    | 0 => none
    | fuel + 1 =>
        let continueWith (c : Char) (cs : List Char) : Option (List Char × List Char) := do
          let (text, cs) ← quotedLines? quote escapes fuel cs
          return (c :: text, cs)
        match cs with
        | [] => none
        | c :: rest =>
            if c = quote then
              let quotes := cs.takeWhile (· = quote)
              if quotes.length < 3 then continueWith c rest
              else
                let extra := min (quotes.length - 3) 2
                some (List.replicate extra quote, cs.drop (extra + 3))
            else if escapes && c = '\\' then
              match lineContinuation? rest with
              | some cs => quotedLines? quote escapes fuel cs
              | none => do
                  let (d, cs) ← escape? rest
                  continueWith d cs
            else match newline? cs with
              | some cs => continueWith '\n' cs
              | none => if isPrintable c then continueWith c rest else none

def quotedLineText? : Reader String
  | '\x22' :: cs => (quotedLine? '\x22' true (cs.length + 1) cs).map (Prod.map String.ofList id)
  | '\x27' :: cs => (quotedLine? '\x27' false (cs.length + 1) cs).map (Prod.map String.ofList id)
  | _ => none

def dropFirstNewline (cs : List Char) : List Char :=
  (newline? cs).getD cs

def quotedText? : Reader String
  | '\x22' :: '\x22' :: '\x22' :: cs =>
      (quotedLines? '\x22' true (cs.length + 1) (dropFirstNewline cs)).map
        (Prod.map String.ofList id)
  | '\x27' :: '\x27' :: '\x27' :: cs =>
      (quotedLines? '\x27' false (cs.length + 1) (dropFirstNewline cs)).map
        (Prod.map String.ofList id)
  | cs => quotedLineText? cs

end RouteTable.Toml
