import RouteTable.CommandLine.Words
import RouteTable.Route.Declaration
/-!
# Commands

What a command line asks for: the manifest to load, base scopes in place of its
own, and a question about its table, or that the table be kept in step with it.
-/

namespace RouteTable.CommandLine

inductive TagLevel where
  | any
  | group
  | route
  | parameter
  deriving DecidableEq, Repr

namespace TagLevel

def all : List TagLevel := [any, group, route, parameter]

def name : TagLevel → String
  | any => "any"
  | group => "group"
  | route => "route"
  | parameter => "parameter"

def ofName? (s : String) : Option TagLevel := all.find? (·.name = s)

end TagLevel

inductive Command where
  | list
  | find (path : String) (method : Option Method)
  | tags (tag : Tag) (level : TagLevel)
  | watch
  deriving DecidableEq, Repr

/-- A command line that has been understood. -/
structure Invocation where
  config : String
  scopes : List String
  command : Command
  deriving DecidableEq, Repr

def defaultConfig : String := "routes.toml"

def setOnce {α : Type} (value : α) : Option α → Except Refusal (Option α)
  | none => .ok (some value)
  | some _ => .error .usage

/-- A question whose operand and option have been read so far. -/
structure Question (α : Type) where
  operand : Option String := none
  choice : Option α := none

def questionGrammar {α : Type} (option : OptionName) (read? : String → Option α) :
    Grammar (Question α) where
  options := [option]
  option _ text q := do
    let some value := read? text | .error .usage
    return { q with choice := ← setOnce value q.choice }
  operand text q := do
    return { q with operand := ← setOnce text q.operand }

def readQuestion {α : Type} (option : OptionName) (read? : String → Option α)
    (words : List String) : Except Refusal (String × Option α) := do
  let q ← (questionGrammar option read?).read {} words
  let some operand := q.operand | .error .usage
  return (operand, q.choice)

def emptyGrammar : Grammar Unit where
  options := []
  option _ _ _ := .error .usage
  operand _ _ := .error .usage

def commandNames : List String := ["list", "match", "tags", "watch"]

def readCommand (name : String) (words : List String) : Except Refusal Command :=
  match name with
  | "list" => (emptyGrammar.read () words).map fun _ => .list
  | "match" => do
      let (path, method) ← readQuestion ⟨'m', "method"⟩ (fun s => (Method.read s).toOption) words
      return .find path method
  | "tags" => do
      let (tag, level) ← readQuestion ⟨'l', "level"⟩ TagLevel.ofName? words
      return .tags ⟨tag⟩ (level.getD .any)
  | "watch" => (emptyGrammar.read () words).map fun _ => .watch
  | "help" =>
      match words with
      | [] | ["help"] => .error .help
      | [name] => if commandNames.contains name then .error .help else .error .usage
      | _ => .error .usage
  | _ => .error .usage

structure Settings where
  config : Option String := none
  scopes : List String := []

/-- The grammar of the options before the command.  The name of a manifest may
not be empty. -/
def settingsGrammar : Grammar Settings where
  options := [⟨'c', "config"⟩, ⟨'s', "scope"⟩]
  option name text s :=
    if name.short = 's' then .ok { s with scopes := s.scopes ++ [text] }
    else if text = "" then .error .usage
    else do return { s with config := ← setOnce text s.config }
  operand _ _ := .error .usage

def Invocation.read (words : List String) : Except Refusal Invocation := do
  let (settings, words) ← settingsGrammar.readOptions {} words
  match words with
  | [] => .error .usage
  | name :: words =>
      let command ← readCommand name words
      return ⟨settings.config.getD defaultConfig, settings.scopes, command⟩

end RouteTable.CommandLine
