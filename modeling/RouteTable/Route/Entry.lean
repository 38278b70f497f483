import RouteTable.Pattern.Matcher
import RouteTable.Route.Declaration
/-!
# Table entries

A compiled route.  Two entries are the same route if they agree in everything
but the tags of their parameters.
-/

namespace RouteTable

open RouteTable.Pattern

inductive HashPiece where
  | index (n : Nat)
  | length (n : Nat)
  | text (s : String)
  deriving DecidableEq, Repr

def HashPiece.ofTags (tags : List Tag) : List HashPiece :=
  .length tags.length :: tags.map fun tag => .text tag.name

/-- A compiled route for one method. -/
structure RouteEntry where
  method : Method
  rawTemplate : String
  resolvedPath : String
  matcher : Matcher
  groupTags : List Tag
  routeTags : List Tag
  parameterTags : List (List Tag)
  deriving DecidableEq

namespace RouteEntry

/-- What makes an entry the route that it is. -/
structure Identity where
  method : Method
  rawTemplate : String
  resolvedPath : String
  fragment : String
  groupTags : List Tag
  routeTags : List Tag
  deriving DecidableEq, Repr

def identity (e : RouteEntry) : Identity where
  method := e.method
  rawTemplate := e.rawTemplate
  resolvedPath := e.resolvedPath
  fragment := e.matcher.fragment
  groupTags := e.groupTags
  routeTags := e.routeTags

def same (a b : RouteEntry) : Bool := a.identity = b.identity

/-- What a hash of the entry is computed from, piece by piece. -/
def hashInput (e : RouteEntry) : List HashPiece :=
  [.index e.method.index, .text e.rawTemplate, .text e.resolvedPath, .text e.matcher.fragment] ++
    HashPiece.ofTags e.groupTags ++ HashPiece.ofTags e.routeTags

def isExact (e : RouteEntry) (path : String) : Bool := e.resolvedPath = path

def accepts (e : RouteEntry) (path : String) : Bool := e.matcher.accepts path

def hasGroupTag (e : RouteEntry) (tag : Tag) : Bool := e.groupTags.contains tag

def hasRouteTag (e : RouteEntry) (tag : Tag) : Bool := e.routeTags.contains tag

def hasParameterTag (e : RouteEntry) (tag : Tag) : Bool :=
  e.parameterTags.any (·.contains tag)

end RouteEntry

end RouteTable
