import RouteTable.Toml.Value
/-!
# Documents

A document is a sequence of lines: headers that say which table follows, and
keys with their values.
-/

namespace RouteTable.Toml

open RouteTable.Data

/-- A document that is being read: its tree, and the path of the last header. -/
structure Document where
  items : Items := []
  header : List String := []

namespace Document

def readHeader? (d : Document) : Reader Document
  | '[' :: cs => do
      let (keys, cs) ← key? cs
      match cs with
      | ']' :: ']' :: cs =>
          let items ← d.items.appendTable keys
          return (⟨items, keys⟩, cs)
      | _ => none
  | cs => do
      let (keys, cs) ← key? cs
      match cs with
      | ']' :: cs =>
          let items ← d.items.defineTable keys
          return (⟨items, keys⟩, cs)
      | _ => none

def readKeyValue? (d : Document) : Reader Document := fun cs => do
  let ((keys, value), cs) ← keyValue? value? cs
  let items ← d.items.insertUnder d.header keys value
  return ({ d with items }, cs)

def readLine? (d : Document) : Reader Document
  | '[' :: cs => d.readHeader? cs
  | cs => d.readKeyValue? cs

def readLines? (d : Document) : Nat → List Char → Option Document
  | 0, _ => none
  | fuel + 1, cs =>
      match skipBlanks cs with
      | [] => some d
      | cs =>
          match lineEnd? cs with
          | some rest => d.readLines? fuel rest
          | none => do
              let (d, rest) ← d.readLine? cs
              let rest ← lineEnd? rest
              d.readLines? fuel rest

end Document

def dropByteOrderMark : List Char → List Char
  | '\ufeff' :: cs => cs
  | cs => cs

/-- The table that a document describes. -/
def read? (text : String) : Option Value := do
  let cs := dropByteOrderMark text.toList
  let d ← Document.readLines? {} (cs.length + 1) cs
  return .table (itemValues d.items)

end RouteTable.Toml
