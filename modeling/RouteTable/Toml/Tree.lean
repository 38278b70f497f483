import RouteTable.Data.Value
/-!
# Tables under construction

The headers and dotted keys of a document build one tree of tables.  A table
that only a header or a dotted key below it has brought about can still be
defined; one that has been written out cannot be defined again.
-/

namespace RouteTable.Toml

open RouteTable.Data

inductive Node where
  | value (value : Value)
  /-- A table.  It is implicit until a header or braces define it, and dotted if
  dotted keys brought it about. -/
  | table (isImplicit isDotted : Bool) (items : List (String × Node))
  | tables (elements : List (List (String × Node)))
  deriving Inhabited

abbrev Items := List (String × Node)

mutual

def Node.toValue : Node → Value
  | .value v => v
  | .table _ _ items => .table (itemValues items)
  | .tables elements => .list (elementValues elements)

def itemValues : List (String × Node) → List (String × Value)
  | [] => []
  | (key, node) :: rest => (key, node.toValue) :: itemValues rest

def elementValues : List (List (String × Node)) → List Value
  | [] => []
  | items :: rest => .table (itemValues items) :: elementValues rest

end

namespace Items

def update (key : String) (change : Option Node → Option Node) : Items → Option Items
  | [] => (change none).map fun node => [(key, node)]
  | (k, node) :: rest =>
      if k = key then (change (some node)).map fun node => (k, node) :: rest
      else (update key change rest).map ((k, node) :: ·)

/-- Changes the table at the end of a path, which `change` also tells whether
the table is dotted.  Missing tables are added as implicit ones, and of a table
that occurs several times the last occurrence is meant.  On a dotted path every
table has to be implicit. -/
def changeAt (dottedPath : Bool) (change : Bool → Items → Option Items) :
    List String → Bool → Items → Option Items
  | [], isDotted, items => change isDotted items
  | key :: path, _, items =>
      update key (fun
        | none =>
            (changeAt dottedPath change path dottedPath []).map (.table true dottedPath ·)
        | some (.table isImplicit isDotted inner) =>
            if dottedPath && !isImplicit then none
            else (changeAt dottedPath change path isDotted inner).map
              (.table isImplicit isDotted ·)
        | some (.tables elements) => do
            let last ← elements.getLast?
            let last ← changeAt dottedPath change path false last
            return .tables (elements.dropLast ++ [last])
        | some (.value _) => none) items

def insertNew (key : String) (node : Node) : Items → Option Items :=
  update key fun
    | none => some node
    | some _ => none

/-- Adds a value under a dotted key.  A table in which a dotted key ends has to
come from dotted keys, too. -/
def insertDotted (keys : List String) (value : Value) (items : Items) : Option Items := do
  let key ← keys.getLast?
  let path := keys.dropLast
  changeAt true (fun isDotted items =>
    if isDotted = path.isEmpty then none else insertNew key (.value value) items)
    path false items

def defineTable (keys : List String) (items : Items) : Option Items := do
  let key ← keys.getLast?
  changeAt false (fun _ => update key fun
    | none => some (.table false false [])
    | some (.table true false inner) => some (.table false false inner)
    | _ => none) keys.dropLast false items

def appendTable (keys : List String) (items : Items) : Option Items := do
  let key ← keys.getLast?
  changeAt false (fun _ => update key fun
    | none => some (.tables [[]])
    | some (.tables elements) => some (.tables (elements ++ [[]]))
    | _ => none) keys.dropLast false items

def insertUnder (header keys : List String) (value : Value) (items : Items) : Option Items :=
  changeAt false (fun _ => insertDotted keys value) header false items

end Items

end RouteTable.Toml
