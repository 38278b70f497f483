import RouteTable.Manifest.Decode
import RouteTable.Manifest.Validation
import RouteTable.Toml.Document
/-!
# Loading manifests

A manifest is written in TOML.  It is loaded once it can be read and has no
problems.
-/

namespace RouteTable

inductive LoadError where
  | unreadable
  | invalid (errors : List ValidationError)
  deriving DecidableEq, Repr

def ValidationError.report (errors : List ValidationError) : String :=
  "Validation failed: " ++ ", ".intercalate (errors.map ValidationError.message)

namespace Manifest

def read? (text : String) : Option Manifest :=
  Toml.read? text >>= ofValue? Data.Format.toml

/-- The manifest that a text writes, if it has no problems. -/
def load (text : String) : Except LoadError Manifest :=
  match read? text with
  | none => .error .unreadable
  | some m => if m.errors = [] then .ok m else .error (.invalid m.errors)

def ofFile? (file : Option String) : Option Manifest :=
  file.bind fun text => (load text).toOption

end Manifest

end RouteTable
