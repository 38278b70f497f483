/-!
# Faults of a template

What can be wrong with a template, where, and how it is reported.
-/

namespace RouteTable

inductive FaultKind where
  | unclosedPlaceholder
  | emptyPlaceholderKey
  | unclosedVariable
  | emptyVariable
  | nestedBrace
  | unmatchedBrace
  | reservedCharacter
  deriving DecidableEq, Repr

/-- A fault and the byte offset at which it shows. -/
structure Fault where
  kind : FaultKind
  offset : Nat
  deriving DecidableEq, Repr

/-- Why a template has no compiled form. -/
inductive TemplateError where
  | malformed (template : String) (fault : Fault)
  | invalidPattern (fragment message : String)
  deriving DecidableEq, Repr

def Fault.shift (n : Nat) (f : Fault) : Fault :=
  { f with offset := n + f.offset }

def FaultKind.description : FaultKind → String
  | .unclosedPlaceholder => "unclosed placeholder"
  | .emptyPlaceholderKey => "empty placeholder key"
  | .unclosedVariable => "unclosed path variable"
  | .emptyVariable => "empty path variable"
  | .nestedBrace => "nested brace"
  | .unmatchedBrace => "unmatched closing brace"
  | .reservedCharacter => "reserved character '\"'"

namespace TemplateError

def template : TemplateError → String
  | malformed template _ => template
  | invalidPattern fragment _ => fragment

def message : TemplateError → String
  | malformed template fault =>
      fault.kind.description ++ " at byte " ++ toString fault.offset ++
        " in `" ++ template ++ "`"
  | invalidPattern fragment message =>
      "invalid matcher pattern `" ++ fragment ++ "`: " ++ message

end TemplateError

end RouteTable
