/-!
# Scopes

A scope is a dotted name such as `app.web.admin`.  It lies within every scope
that it begins with, dot by dot.
-/

namespace RouteTable.Scope

/-- Whether `scope` is `base` or lies under it: `app.web` holds `app.web.admin`
but not `app.website`. -/
def within (scope base : String) : Bool :=
  match base.toList.isPrefixOf? scope.toList with
  | none => false
  | some [] => true
  | some (c :: _) => c = '.'

def isNameChar (c : Char) : Bool :=
  c.isAlphanum || c = '_' || c = '-'

/-- The parts of a text between its dots; there is always at least one. -/
def parts : List Char → List (List Char)
  | [] => [[]]
  | c :: cs =>
      if c = '.' then [] :: parts cs
      else match parts cs with
        | [] => [[c]]
        | part :: rest => (c :: part) :: rest

def isWellFormed (scope : String) : Bool :=
  (parts scope.toList).all fun part => !part.isEmpty && part.all isNameChar

theorem parts_ne_nil (cs : List Char) : parts cs ≠ [] := by
  cases cs with
  | nil => simp [parts]
  | cons c cs =>
      unfold parts
      split
      · simp
      · split <;> simp

end RouteTable.Scope
