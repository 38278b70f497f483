import RouteTable.Properties.Map
import RouteTable.Template.Placeholder
/-!
# Properties over an environment

A key is looked up among the configured properties, then as the name of an
environment variable, and then in upper snake case: `test.var.1` becomes
`TEST_VAR_1`.
-/

namespace RouteTable

abbrev Environment := String → Option String

def Environment.none : Environment := fun _ => Option.none

def Environment.isName (name : String) : Bool :=
  name ≠ "" && !name.toList.contains '=' && !name.toList.contains '\x00'

/-- The name of the variable that stands for a key, in upper snake case. -/
def Environment.snakeCase (key : String) : String :=
  String.ofList (key.toList.map fun c => if c.isAlphanum then c.toUpper else '_')

/-- Configured values, with or without the environment behind them. -/
structure Properties where
  values : PropertyMap := .empty
  useEnvironment : Bool := true
  deriving DecidableEq, Repr

namespace Properties

def get? (p : Properties) (env : Environment) (key : String) : Option String :=
  match p.values.get? key with
  | some value => some value
  | none =>
      if p.useEnvironment && Environment.isName key then
        env key <|> env (Environment.snakeCase key)
      else none

def source (p : Properties) (env : Environment) : PropertySource :=
  fun key default => (p.get? env key).getD default

end Properties

end RouteTable
