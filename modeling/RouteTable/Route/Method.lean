/-!
# Request methods

The closed set of methods that a route can be declared for.
-/

namespace RouteTable

inductive Method where
  | get
  | head
  | post
  | put
  | patch
  | delete
  | options
  | trace
  deriving DecidableEq, Repr

namespace Method

/-- Every method, in the order in which a route without methods gets them. -/
def all : List Method := [get, head, post, put, patch, delete, options, trace]

def index (m : Method) : Nat := all.idxOf m

def name : Method → String
  | get => "GET"
  | head => "HEAD"
  | post => "POST"
  | put => "PUT"
  | patch => "PATCH"
  | delete => "DELETE"
  | options => "OPTIONS"
  | trace => "TRACE"

def ofName? (s : String) : Option Method :=
  all.find? (·.name = s)

structure Unsupported where
  name : String
  deriving DecidableEq, Repr

def Unsupported.message (e : Unsupported) : String :=
  "unsupported request method `" ++ e.name ++ "`"

/-- The method with this name in any case of its ASCII letters. -/
def read (s : String) : Except Unsupported Method :=
  match all.find? fun m => m.name.toList = s.toList.map Char.toUpper with
  | some m => .ok m
  | none => .error ⟨s⟩

def isTokenChar (c : Char) : Bool :=
  c.isAlphanum || "!#$%&'*+-.^_`|~".toList.contains c

def isToken (s : String) : Bool :=
  !s.toList.isEmpty && s.toList.all isTokenChar

theorem index_inj {m n : Method} : m.index = n.index ↔ m = n := by
  cases m <;> cases n <;> decide

end Method

end RouteTable
