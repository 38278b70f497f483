import RouteTable.Template.Segment
/-!
# Placeholder values

Every placeholder is replaced by the value that a property source gives for
it.  A value is copied as it is: nothing in it is read as a placeholder again.
-/

namespace RouteTable

/-- Gives the value of a key, and the default for a key that has none. -/
abbrev PropertySource := (key default : String) → String

namespace Template

def Segment.value (properties : PropertySource) : Segment → List Char
  | .literal text => text
  | .placeholder key default =>
      (properties (String.ofList key) (String.ofList default)).toList
  | .pathVariable name => '{' :: name ++ ['}']

/-- The template with its placeholders replaced. -/
def resolve (properties : PropertySource) (template : String) :
    Except TemplateError String :=
  (segments true template).map fun pieces =>
    String.ofList (pieces.flatMap (Segment.value properties))

end Template

end RouteTable
