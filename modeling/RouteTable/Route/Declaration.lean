import RouteTable.Route.Method
/-!
# Route declarations

What is known of a route before it is compiled.
-/

namespace RouteTable

structure Tag where
  name : String
  deriving DecidableEq, Repr

/-- One declared route.  No templates stand for one empty template, and no
methods for all of them. -/
structure Declaration where
  scope : String := ""
  groupTemplates : List String := []
  routeTemplates : List String := []
  methods : List Method := []
  groupTags : List Tag := []
  routeTags : List Tag := []
  parameterTags : List (List Tag) := []
  deriving DecidableEq, Repr

namespace Declaration

def templatesOrRoot (templates : List String) : List String :=
  if templates = [] then [""] else templates.eraseDups

def methodsOrAll (methods : List Method) : List Method :=
  if methods = [] then Method.all else methods.eraseDups

end Declaration

end RouteTable
