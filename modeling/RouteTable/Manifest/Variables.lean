import RouteTable.Manifest.Basic
/-!
# Variables of a manifest

The environment variables that the placeholders of a manifest can ask for.
-/

namespace RouteTable

def Template.keys (template : String) : List String :=
  match segments true template with
  | .ok pieces => pieces.filterMap fun
      | .placeholder key _ => some (String.ofList key)
      | _ => none
  | .error _ => []

namespace Manifest

def keys (m : Manifest) : List String :=
  m.declarations.flatMap fun d => d.expand.flatMap fun (template, _) => Template.keys template

/-- The names under which the environment is asked for the value of a key. -/
def variableNames (m : Manifest) : List String :=
  (m.keys.flatMap fun key => [key, Environment.snakeCase key]).eraseDups.filter
    Environment.isName

end Manifest

end RouteTable
