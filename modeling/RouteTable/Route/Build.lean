import RouteTable.Route.Compiler
import RouteTable.Route.Table
/-!
# Builds

A build compiles declarations into a table.  It keeps the errors of rejected
templates, counts what it does and records one event for each step, with a
summary at the end.
-/

namespace RouteTable

inductive BuildEvent where
  | compiled (method : Method) (rawTemplate : String)
  | duplicate (method : Method) (rawTemplate : String)
  | rejected (error : CompileError)
  | finished (routes rejections skipped : Nat)
  deriving DecidableEq, Repr

inductive Severity where
  | debug
  | info
  | warn
  deriving DecidableEq, Repr

def Severity.name : Severity → String
  | debug => "DEBUG"
  | info => "INFO"
  | warn => "WARN"

namespace BuildEvent

def severity : BuildEvent → Severity
  | compiled .. | duplicate .. => .debug
  | rejected _ => .warn
  | finished .. => .info

def message : BuildEvent → String
  | compiled .. => "Route compiled"
  | duplicate .. => "Duplicate route skipped"
  | rejected _ => "Route template rejected"
  | finished .. => "Routing table compiled"

end BuildEvent

inductive BuildError where
  | rejected (errors : List CompileError)
  deriving DecidableEq, Repr

def BuildError.message : BuildError → String
  | rejected errors =>
      toString errors.length ++ " route template(s) rejected; first: " ++
        (errors.head?.map CompileError.message).getD ""

/-- A build at some point of its run. -/
structure Build where
  table : RoutingTable := .empty
  rejected : List CompileError := []
  compiledCount : Nat := 0
  duplicateCount : Nat := 0
  rejectedCount : Nat := 0
  skippedDeclarations : Nat := 0
  tableSize : Option Nat := none
  events : List BuildEvent := []

namespace Build

/-- Takes in the outcome of one template and method. -/
def add (b : Build) : Except CompileError RouteEntry → Build
  | .ok e =>
      if b.table.contains e then
        { b with
          duplicateCount := b.duplicateCount + 1
          events := b.events ++ [.duplicate e.method e.rawTemplate] }
      else
        { b with
          table := b.table.insert e
          compiledCount := b.compiledCount + 1
          events := b.events ++ [.compiled e.method e.rawTemplate] }
  | .error error =>
      { b with
        rejected := b.rejected ++ [error]
        rejectedCount := b.rejectedCount + 1
        events := b.events ++ [.rejected error] }

def addDeclaration (c : RouteCompiler) (b : Build) (d : Declaration) : Build :=
  if c.accepts d then (c.compile d).foldl add b
  else { b with skippedDeclarations := b.skippedDeclarations + 1 }

/-- Measures the table of a build and records the summary. -/
def finish (b : Build) : Build :=
  { b with
    tableSize := some b.table.size
    events := b.events ++
      [.finished b.table.size b.rejected.length b.skippedDeclarations] }

def strict (b : Build) : Except BuildError RoutingTable :=
  if b.rejected = [] then .ok b.table else .error (.rejected b.rejected)

end Build

def RouteCompiler.build (c : RouteCompiler) (ds : List Declaration) : Build :=
  (ds.foldl (Build.addDeclaration c) {}).finish

end RouteTable
