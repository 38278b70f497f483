import RouteTable.Path.Join
import RouteTable.Route.Entry
import RouteTable.Route.Scope
import RouteTable.Template.Placeholder
import RouteTable.Wildcard.Fragment
/-!
# Compiling declarations

A declaration stands for every combination of a group template, a route
template and a method, in that order of nesting.  Each combination gives an
entry or an error of its own.
-/

namespace RouteTable

open RouteTable.Pattern

/-- A template and method without compiled form. -/
structure CompileError where
  scope : String
  rawTemplate : String
  method : Method
  source : TemplateError
  deriving DecidableEq, Repr

def CompileError.message (e : CompileError) : String :=
  "cannot compile " ++ e.method.name ++ " `" ++ e.rawTemplate ++ "` in scope `" ++
    e.scope ++ "`: " ++ e.source.message

/-- The joined templates and methods that a declaration stands for. -/
def Declaration.expand (d : Declaration) : List (String × Method) :=
  (templatesOrRoot d.groupTemplates).flatMap fun group =>
    (templatesOrRoot d.routeTemplates).flatMap fun route =>
      (methodsOrAll d.methods).map fun method => (Path.join [group, route], method)

abbrev Compiled := Except TemplateError (String × Matcher)

/-- Compiles declarations with the values of some properties, within some base
scopes.  No base scopes let every declaration in. -/
structure RouteCompiler where
  properties : PropertySource
  baseScopes : List String := []

namespace RouteCompiler

def accepts (c : RouteCompiler) (d : Declaration) : Bool :=
  c.baseScopes.isEmpty || c.baseScopes.any (Scope.within d.scope)

def compileTemplate (c : RouteCompiler) (rawTemplate : String) : Compiled := do
  let resolvedPath ← Template.resolve c.properties rawTemplate
  let matcher ← Wildcard.compile resolvedPath
  return (resolvedPath, matcher)

def outcome (d : Declaration) (rawTemplate : String) (method : Method) :
    Compiled → Except CompileError RouteEntry
  | .ok (resolvedPath, matcher) => .ok
      { method, rawTemplate, resolvedPath, matcher
        groupTags := d.groupTags
        routeTags := d.routeTags
        parameterTags := d.parameterTags }
  | .error source => .error ⟨d.scope, rawTemplate, method, source⟩

/-- Compiles the templates of a declaration for their methods.  The last
template is at hand with its compiled form, which serves as long as the template
does not change. -/
def compileFrom (c : RouteCompiler) (d : Declaration) (last : Option (String × Compiled)) :
    List (String × Method) → List (Except CompileError RouteEntry)
  | [] => []
  | (rawTemplate, method) :: rest =>
      let compiled := match last with
        | some (previous, compiled) =>
            if previous = rawTemplate then compiled else c.compileTemplate rawTemplate
        | none => c.compileTemplate rawTemplate
      outcome d rawTemplate method compiled ::
        c.compileFrom d (some (rawTemplate, compiled)) rest

def compile (c : RouteCompiler) (d : Declaration) : List (Except CompileError RouteEntry) :=
  c.compileFrom d none d.expand

end RouteCompiler

end RouteTable
