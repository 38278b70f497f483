import RouteTable.Manifest.Load
/-!
# Changes of a manifest

Of the versions of a manifest that can be loaded, those are delivered that
differ from the one before.
-/

namespace RouteTable

/-- The manifest that was delivered last, or the one that watching began with. -/
structure ManifestChanges where
  last : Option Manifest := none

namespace ManifestChanges

def deliver (c : ManifestChanges) (m : Manifest) : Option Manifest × ManifestChanges :=
  if c.last = some m then (none, c) else (some m, ⟨some m⟩)

def watching (baseline : Option String) : ManifestChanges :=
  ⟨baseline.bind fun text => (Manifest.load text).toOption⟩

end ManifestChanges

inductive VersionOutcome where
  | changed (manifest : Manifest)
  | unchanged
  | failed (error : LoadError)

def ManifestChanges.receive (c : ManifestChanges) (text : String) :
    VersionOutcome × ManifestChanges :=
  match Manifest.load text with
  | .error error => (.failed error, c)
  | .ok m =>
      match c.deliver m with
      | (some m, c) => (.changed m, c)
      | (none, c) => (.unchanged, c)

def VersionOutcome.delivered? : VersionOutcome → Option Manifest
  | .changed m => some m
  | .unchanged | .failed _ => none

/-- Takes in the file as it stands, given its text.  A file that cannot be read is no new
version. -/
def ManifestChanges.look (c : ManifestChanges) :
    Option String → Option Manifest × ManifestChanges
  | none => (none, c)
  | some text =>
      let (outcome, c) := c.receive text
      (outcome.delivered?, c)

end RouteTable
