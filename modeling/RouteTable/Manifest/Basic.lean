import RouteTable.Properties.Lookup
import RouteTable.Route.Build
/-!
# Manifests

A manifest declares groups of routes, with the properties and base scopes that
they are compiled with.
-/

namespace RouteTable

inductive LogFormat where
  | pretty
  | compact
  | json
  deriving DecidableEq, Repr

namespace LogFormat

def all : List LogFormat := [pretty, compact, json]

def name : LogFormat → String
  | pretty => "pretty"
  | compact => "compact"
  | json => "json"

def ofName? (s : String) : Option LogFormat :=
  all.find? (·.name = s)

end LogFormat

namespace Manifest

structure Observability where
  logLevel : String := "info"
  logFormat : LogFormat := .pretty
  deriving DecidableEq, Repr

structure Route where
  paths : List String := []
  methods : List Method := []
  tags : List Tag := []
  parameters : List (List Tag) := []
  deriving DecidableEq, Repr

structure Group where
  scope : String := ""
  paths : List String := []
  tags : List Tag := []
  routes : List Route := []
  deriving DecidableEq, Repr

end Manifest

structure Manifest where
  /-- Whether one rejected template fails the whole build. -/
  strict : Bool := false
  scopes : List String := []
  properties : PropertyMap := .empty
  useEnvironment : Bool := true
  observability : Manifest.Observability := {}
  groups : List Manifest.Group := []
  deriving DecidableEq, Repr

namespace Manifest

def Group.declaration (group : Group) (route : Route) : Declaration where
  scope := group.scope
  groupTemplates := group.paths
  routeTemplates := route.paths
  methods := route.methods
  groupTags := group.tags
  routeTags := route.tags
  parameterTags := route.parameters

def declarations (m : Manifest) : List Declaration :=
  m.groups.flatMap fun group => group.routes.map group.declaration

def propertySource (m : Manifest) (env : Environment) : PropertySource :=
  Properties.source { values := m.properties, useEnvironment := m.useEnvironment } env

def compiler (m : Manifest) (env : Environment) : RouteCompiler where
  properties := m.propertySource env
  baseScopes := m.scopes

def compile (m : Manifest) (env : Environment) : Build :=
  (m.compiler env).build m.declarations

/-- The table of the manifest; a strict one has none if a template is rejected. -/
def buildTable (m : Manifest) (env : Environment) : Except BuildError RoutingTable :=
  if m.strict then (m.compile env).strict else .ok (m.compile env).table

/-- Puts other base scopes in place of those of the manifest, if there are any. -/
def overrideScopes (m : Manifest) (scopes : List String) : Manifest :=
  if scopes = [] then m else { m with scopes }

end Manifest

end RouteTable
