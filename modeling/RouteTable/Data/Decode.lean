import RouteTable.Data.Value
import RouteTable.Properties.Map
/-!
# Reading settings from data values

A record may be written as a table of its fields or as a list of them in their
order; fields that are left out have a default, and unknown ones do not count.
-/

namespace RouteTable.Data

/-- What differs between data formats in the reading of settings. -/
structure Format where
  allowsExtraItems : Bool
  isUnit : Value → Bool

namespace Format

def toml : Format where
  allowsExtraItems := true
  isUnit
    | .table [] | .list [] => true
    | _ => false

def json : Format where
  allowsExtraItems := false
  isUnit
    | .null => true
    | _ => false

end Format

abbrev Fields := String → Option Value

namespace Value

def bool? : Value → Option Bool
  | bool b => some b
  | _ => none

def string? : Value → Option String
  | string s => some s
  | _ => none

def list? {α : Type} (item? : Value → Option α) : Value → Option (List α)
  | list items => items.mapM item?
  | _ => none

/-- The key under which a date stands where a table of names is expected. -/
def datetimeKey : String := "$__toml_private_datetime"

def propertyMap? : Value → Option PropertyMap
  | table entries => do
      let entries ← entries.mapM fun (key, value) => value.string?.map (key, ·)
      return .ofList entries
  | datetime text => some (.ofList [(datetimeKey, text)])
  | _ => none

/-- A choice between constants, written as its name or as a table with the name
as its one key. -/
def choice? {α : Type} (format : Format) (ofName? : String → Option α) : Value → Option α
  | string name => ofName? name
  | table [(name, payload)] => if format.isUnit payload then ofName? name else none
  | _ => none

/-- The fields of a record with these field names.  A date is a table without
any of them. -/
def fields? (format : Format) (names : List String) : Value → Option Fields
  | table entries => some fun name => entries.lookup name
  | list items =>
      if format.allowsExtraItems || items.length ≤ names.length then
        some fun name => (names.zip items).lookup name
      else none
  | datetime _ => some fun _ => none
  | _ => none

end Value

def Fields.get? {α : Type} (fields : Fields) (name : String) (read? : Value → Option α)
    (default : α) : Option α :=
  match fields name with
  | none => some default
  | some value => read? value

end RouteTable.Data
