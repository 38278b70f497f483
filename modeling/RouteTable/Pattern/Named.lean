import RouteTable.Pattern.Segmentation
import RouteTable.Text.Age
import RouteTable.Text.Script
/-!
# Classes by name

The sets of characters that a pattern asks for by the name of a property, a
category or a script, or by the name and the value of a property.
-/

namespace RouteTable.Pattern

open RouteTable.Text

namespace CharSet

/-- What the name of a property comes down to: case, separators and an `is` in
front do not count.  Only the name `isc` keeps it, since it means a property. -/
def looseName (name : List Char) : String :=
  let isKept (c : Char) : Bool := c.toNat < 0x80 && c ≠ ' ' && c ≠ '_' && c ≠ '-'
  let loose (name : List Char) : List Char := (name.filter isKept).map Char.toLower
  match name with
  | i :: s :: rest =>
      if i.toLower = 'i' ∧ s.toLower = 's' then
        if loose rest = ['c'] then "isc" else String.ofList (loose rest)
      else String.ofList (loose name)
  | _ => String.ofList (loose name)

def property? (properties : List Property) (name : String) : Option CharSet :=
  (properties.find? (·.names.contains name)).map (·.characters)

def category? (name : String) : Option CharSet :=
  match name with
  | "any" => some any
  | "ascii" => some ascii
  | "cn" | "unassigned" => some (compl (ofTables assigned))
  | "c" | "other" =>
      some (unions [compl (ofTables assigned), table controls, table formats, table privateUse])
  | _ => (categories.find? (·.1.contains name)).map fun (_, tables) => ofTables tables

def script? (name : String) : Option CharSet :=
  (scripts.find? (·.names.contains name)).map fun script => table script.characters

/-- The characters that are used in a script.  Those that are shared by several
scripts are taken out of the two that hold them. -/
def extendedScript? (name : String) : Option CharSet :=
  (scripts.find? (·.names.contains name)).map fun script =>
    if script.isGeneral then
      diff (table script.characters) (ofTables (scripts.map (·.shared)))
    else union (table script.characters) (table script.shared)

def age? (name : String) : Option CharSet :=
  match versions.findIdx? (·.names.contains name) with
  | none => none
  | some i => some (ofTables ((versions.take (i + 1)).map (·.characters)))

def named? (name : String) : Option CharSet :=
  (property? Property.all name).or ((category? name).or (script? name))

def valued? (property value : String) : Option CharSet :=
  match property with
  | "gc" | "generalcategory" => category? value
  | "sc" | "script" => script? value
  | "scx" | "scriptextensions" => extendedScript? value
  | "age" => age? value
  | "gcb" | "graphemeclusterbreak" => property? Property.clusterBreaks value
  | "wb" | "wordbreak" => property? Property.wordBreaks value
  | "sb" | "sentencebreak" => property? Property.sentenceBreaks value
  | _ => none

end CharSet

end RouteTable.Pattern
