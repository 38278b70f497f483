import RouteTable.Manifest.Basic
/-!
# Validation

Everything that is wrong with a manifest, in the order in which it stands
there, each problem at its own place.
-/

namespace RouteTable

inductive ValidationError where
  | invalidBaseScope (index : Nat) (scope : String)
  | invalidScope (group : Nat) (scope : String)
  | emptyGroup (group : Nat)
  | groupTemplate (group index : Nat) (source : TemplateError)
  | routeTemplate (group route index : Nat) (source : TemplateError)
  | invalidLogLevel (level : String)
  deriving DecidableEq, Repr

namespace ValidationError

def element (list : String) (index : Nat) : String :=
  list ++ "[" ++ toString index ++ "]"

def message : ValidationError → String
  | invalidBaseScope index scope =>
      element "scopes" index ++ ": invalid base scope `" ++ scope ++ "`"
  | invalidScope group scope =>
      element "groups" group ++ ": invalid scope `" ++ scope ++ "`"
  | emptyGroup group => element "groups" group ++ ": no routes declared"
  | groupTemplate group index source =>
      element "groups" group ++ "." ++ element "paths" index ++ ": " ++ source.message
  | routeTemplate group route index source =>
      element "groups" group ++ "." ++ element "routes" route ++ "." ++
        element "paths" index ++ ": " ++ source.message
  | invalidLogLevel level => "observability.log_level: unknown level `" ++ level ++ "`"

def source? : ValidationError → Option TemplateError
  | groupTemplate _ _ source | routeTemplate _ _ _ source => some source
  | _ => none

end ValidationError

namespace Manifest

def logLevels : List String := ["trace", "debug", "info", "warn", "error"]

/-- Whether a level is known, in any case of its ASCII letters. -/
def isLogLevel (level : String) : Bool :=
  logLevels.contains (String.ofList (level.toList.map Char.toLower))

def templateErrors (templates : List String) : List (Nat × TemplateError) :=
  templates.zipIdx.filterMap fun (template, index) =>
    match Template.check template with
    | .ok () => none
    | .error source => some (index, source)

def baseScopeErrors (scopes : List String) : List ValidationError :=
  scopes.zipIdx.filterMap fun (scope, index) =>
    if Scope.isWellFormed scope then none else some (.invalidBaseScope index scope)

/-- The problems of a route, given its position and that of its group. -/
def Route.errors (group index : Nat) (route : Route) : List ValidationError :=
  (templateErrors route.paths).map fun (path, source) => .routeTemplate group index path source

def Group.errors (index : Nat) (group : Group) : List ValidationError :=
  (if group.scope = "" ∨ Scope.isWellFormed group.scope then []
    else [.invalidScope index group.scope]) ++
  (if group.routes = [] then [.emptyGroup index] else []) ++
  (templateErrors group.paths).map (fun (path, source) => .groupTemplate index path source) ++
  group.routes.zipIdx.flatMap fun (route, position) => route.errors index position

def logLevelErrors (level : String) : List ValidationError :=
  if isLogLevel level then [] else [.invalidLogLevel level]

def errors (m : Manifest) : List ValidationError :=
  baseScopeErrors m.scopes ++
  m.groups.zipIdx.flatMap (fun (group, index) => group.errors index) ++
  logLevelErrors m.observability.logLevel

end Manifest

end RouteTable
