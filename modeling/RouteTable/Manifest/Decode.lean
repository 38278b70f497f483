import RouteTable.Data.Decode
import RouteTable.Manifest.Basic
/-!
# Reading manifests and declarations

Manifests and declarations as records of a data file.
-/

namespace RouteTable

open RouteTable.Data

def Tag.ofValue? (v : Value) : Option Tag := v.string?.map Tag.mk

def Method.ofValue? (format : Format) : Value → Option Method :=
  Value.choice? format Method.ofName?

def Declaration.ofValue? (format : Format) (v : Value) : Option Declaration := do
  let fields ← v.fields? format ["scope", "group_templates", "route_templates", "methods",
    "group_tags", "route_tags", "parameter_tags"]
  let strings := Value.list? Value.string?
  let tags := Value.list? Tag.ofValue?
  return {
    scope := ← fields.get? "scope" Value.string? ""
    groupTemplates := ← fields.get? "group_templates" strings []
    routeTemplates := ← fields.get? "route_templates" strings []
    methods := ← fields.get? "methods" (Value.list? (Method.ofValue? format)) []
    groupTags := ← fields.get? "group_tags" tags []
    routeTags := ← fields.get? "route_tags" tags []
    parameterTags := ← fields.get? "parameter_tags" (Value.list? tags) [] }

namespace Manifest

def Observability.ofValue? (format : Format) (v : Value) : Option Observability := do
  let fields ← v.fields? format ["log_level", "log_format"]
  let default : Observability := {}
  return {
    logLevel := ← fields.get? "log_level" Value.string? default.logLevel
    logFormat := ←
      fields.get? "log_format" (Value.choice? format LogFormat.ofName?) default.logFormat }

def Route.ofValue? (format : Format) (v : Value) : Option Route := do
  let fields ← v.fields? format ["paths", "methods", "tags", "parameters"]
  let tags := Value.list? Tag.ofValue?
  return {
    paths := ← fields.get? "paths" (Value.list? Value.string?) []
    methods := ← fields.get? "methods" (Value.list? (Method.ofValue? format)) []
    tags := ← fields.get? "tags" tags []
    parameters := ← fields.get? "parameters" (Value.list? tags) [] }

def Group.ofValue? (format : Format) (v : Value) : Option Group := do
  let fields ← v.fields? format ["scope", "paths", "tags", "routes"]
  return {
    scope := ← fields.get? "scope" Value.string? ""
    paths := ← fields.get? "paths" (Value.list? Value.string?) []
    tags := ← fields.get? "tags" (Value.list? Tag.ofValue?) []
    routes := ← fields.get? "routes" (Value.list? (Route.ofValue? format)) [] }

def ofValue? (format : Format) (v : Value) : Option Manifest := do
  let fields ← v.fields? format ["strict", "scopes", "properties", "use_environment",
    "observability", "groups"]
  let default : Manifest := {}
  return {
    strict := ← fields.get? "strict" Value.bool? default.strict
    scopes := ← fields.get? "scopes" (Value.list? Value.string?) default.scopes
    properties := ← fields.get? "properties" Value.propertyMap? default.properties
    useEnvironment := ← fields.get? "use_environment" Value.bool? default.useEnvironment
    observability := ←
      fields.get? "observability" (Observability.ofValue? format) default.observability
    groups := ← fields.get? "groups" (Value.list? (Group.ofValue? format)) default.groups }

end Manifest

end RouteTable
