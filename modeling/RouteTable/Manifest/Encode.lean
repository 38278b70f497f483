import RouteTable.Data.Value
import RouteTable.Manifest.Basic
/-!
# Writing routes and manifests

Entries, declarations and manifests as records of a data file, every field
written out.
-/

namespace RouteTable

open RouteTable.Data

namespace Data.Value

def strings (texts : List String) : Value := list (texts.map string)

end Data.Value

def Tag.toValue (tag : Tag) : Value := .string tag.name

def Tag.listValue (tags : List Tag) : Value := .list (tags.map Tag.toValue)

def Method.toValue (m : Method) : Value := .string m.name

/-- An entry, with the fragment of its matcher. -/
def RouteEntry.toValue (e : RouteEntry) : Value := .table [
  ("method", e.method.toValue),
  ("raw_template", .string e.rawTemplate),
  ("resolved_path", .string e.resolvedPath),
  ("matcher_pattern", .string e.matcher.fragment),
  ("group_tags", Tag.listValue e.groupTags),
  ("route_tags", Tag.listValue e.routeTags),
  ("parameter_tags", .list (e.parameterTags.map Tag.listValue))]

def Declaration.toValue (d : Declaration) : Value := .table [
  ("scope", .string d.scope),
  ("group_templates", .strings d.groupTemplates),
  ("route_templates", .strings d.routeTemplates),
  ("methods", .list (d.methods.map Method.toValue)),
  ("group_tags", Tag.listValue d.groupTags),
  ("route_tags", Tag.listValue d.routeTags),
  ("parameter_tags", .list (d.parameterTags.map Tag.listValue))]

def PropertyMap.toValue (map : PropertyMap) : Value :=
  .table (map.entries.map fun (key, value) => (key, .string value))

namespace Manifest

def Route.toValue (r : Route) : Value := .table [
  ("paths", .strings r.paths),
  ("methods", .list (r.methods.map Method.toValue)),
  ("tags", Tag.listValue r.tags),
  ("parameters", .list (r.parameters.map Tag.listValue))]

def Group.toValue (g : Group) : Value := .table [
  ("scope", .string g.scope),
  ("paths", .strings g.paths),
  ("tags", Tag.listValue g.tags),
  ("routes", .list (g.routes.map Route.toValue))]

def Observability.toValue (o : Observability) : Value := .table [
  ("log_level", .string o.logLevel),
  ("log_format", .string o.logFormat.name)]

def toValue (m : Manifest) : Value := .table [
  ("strict", .bool m.strict),
  ("scopes", .strings m.scopes),
  ("properties", m.properties.toValue),
  ("use_environment", .bool m.useEnvironment),
  ("observability", m.observability.toValue),
  ("groups", .list (m.groups.map Group.toValue))]

end Manifest

end RouteTable
