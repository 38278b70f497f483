import RouteTable.CommandLine.Command
import RouteTable.Json.Printer
import RouteTable.Manifest.Encode
import RouteTable.Manifest.Reload
/-!
# Running a command

The answer to a command line, given the files and the environment that it is
run with.
-/

namespace RouteTable.CommandLine

open RouteTable.Data

/-- What a run leaves: its exit code, what it prints, and what it complains of. -/
structure Outcome where
  exitCode : Nat
  output : String
  complaint : String := ""
  deriving DecidableEq, Repr

inductive Failure where
  | noFile (name : String)
  | notLoaded (error : LoadError)
  | notBuilt (error : BuildError)
  deriving DecidableEq, Repr

def Failure.message : Failure → String
  | noFile name => "cannot read `" ++ name ++ "`"
  | notLoaded .unreadable => "the manifest is not well formed"
  | notLoaded (.invalid errors) => ValidationError.report errors
  | notBuilt error => error.message

/-- What a command says of a table.  Watching says nothing. -/
def Command.answer (table : RoutingTable) : Command → Option Value
  | .list => some (entriesValue table.entries)
  | .find path none => some (entriesValue (table.findByPath path))
  | .find path (some method) =>
      match table.findExact path method with
      | some e => some e.toValue
      | none => some .null
  | .tags tag level => some <| entriesValue <| match level with
      | .any => table.findByTag tag
      | .group => table.findByGroupTag tag
      | .route => table.findByRouteTag tag
      | .parameter => table.findByParameterTag tag
  | .watch => none
where
  entriesValue (es : List RouteEntry) : Value := .list (es.map RouteEntry.toValue)

def Invocation.manifest (i : Invocation) (text : Option String) : Except Failure Manifest :=
  match text with
  | none => .error (.noFile i.config)
  | some text =>
      match Manifest.load text with
      | .error error => .error (.notLoaded error)
      | .ok m => .ok (m.overrideScopes i.scopes)

def Invocation.table (i : Invocation) (text : Option String) (env : Environment) :
    Except Failure RoutingTable := do
  let m ← i.manifest text
  (m.buildTable env).mapError .notBuilt

/-- What a command line that asks for watching begins with. -/
def watched? (text : Option String) (env : Environment) (words : List String) :
    Option (Invocation × LiveTable) := do
  let i ← (Invocation.read words).toOption
  guard (i.command = .watch)
  let table ← (i.table text env).toOption
  return (i, ⟨.watching text, ⟨table⟩⟩)

def usage : String :=
  "Usage: [-c FILE] [-s SCOPE]... list | match PATH [-m METHOD] | tags TAG [-l LEVEL] | watch\n"

def run (readFile : String → Option String) (env : Environment) (words : List String) :
    Outcome :=
  match Invocation.read words with
  | .error .help => { exitCode := 0, output := usage }
  | .error .usage => { exitCode := 2, output := "", complaint := usage }
  | .ok i =>
      match i.table (readFile i.config) env with
      | .ok table =>
          { exitCode := 0, output := ((i.command.answer table).map printed).getD "" }
      | .error failure => { exitCode := 1, output := "", complaint := failure.message ++ "\n" }
where
  printed (v : Value) : String := Json.pretty v ++ "\n"

end RouteTable.CommandLine
