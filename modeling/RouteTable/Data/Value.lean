/-!
# Data values

What a data file holds, whatever its format.
-/

namespace RouteTable.Data

/-- A value of a data file. -/
inductive Value where
  | null
  | bool (value : Bool)
  | integer (value : Int)
  /-- A number with a fraction or an exponent.  No setting is such a number, so
  only its text is kept. -/
  | real (text : String)
  | string (text : String)
  | datetime (text : String)
  | list (items : List Value)
  | table (entries : List (String × Value))
  deriving Inhabited, Repr

end RouteTable.Data
