import RouteTable.CommandLine.Run
import RouteTable.Manifest.Variables
/-!
# The command line program

Reads the manifest and the variables that it asks for, runs the command and
prints the answer.  If it is asked to, it goes on and follows the manifest.
-/

open RouteTable
open RouteTable.CommandLine

def readText? (name : String) : IO (Option String) := do
  try
    return some (← IO.FS.readFile name)
  catch _ =>
    return none

def readEnvironment (names : List String) : IO Environment := do
  let values ← names.mapM fun name => return (name, ← IO.getEnv name)
  return fun name => (values.lookup name).join

def environmentFor (i : Invocation) (text : Option String) : IO Environment := do
  match i.manifest text with
  | .error _ => return .none
  | .ok m => readEnvironment m.variableNames

def readInputs (words : List String) : IO (Option String × Environment) := do
  match Invocation.read words with
  | .error _ => return (none, .none)
  | .ok i =>
      let text ← readText? i.config
      return (text, ← environmentFor i text)

/-- Looks at the file of a manifest every two seconds, and takes in its versions. -/
def watch (i : Invocation) (live : LiveTable) (text : Option String) : IO Unit := do
  let mut live := live
  let mut seen := text
  repeat
    IO.sleep 2000
    let text ← readText? i.config
    if text ≠ seen then
      seen := text
      if let some version := text then
        let (reload, next) := live.receive i.scopes (← environmentFor i text) version
        IO.eprintln reload.message
        live := next

def main (words : List String) : IO UInt32 := do
  let (text, env) ← readInputs words
  let outcome := run (fun _ => text) env words
  IO.print outcome.output
  IO.eprint outcome.complaint
  if let some (i, live) := watched? text env words then
    watch i live text
  return outcome.exitCode.toUInt32
