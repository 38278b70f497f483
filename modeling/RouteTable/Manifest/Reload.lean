import RouteTable.Manifest.Changes
import RouteTable.Route.Published
/-!
# Following a manifest

A published table that is built anew whenever its manifest changes.
-/

namespace RouteTable

/-- A published table with the manifest that it follows. -/
structure LiveTable where
  changes : ManifestChanges := {}
  published : PublishedTable := {}

inductive Reload where
  | replaced (previous : RoutingTable)
  | unchanged
  | notLoaded (error : LoadError)
  | notBuilt (error : BuildError)

def Reload.message : Reload → String
  | replaced _ => "Route manifest changed, reloading"
  | unchanged => "Route manifest unchanged"
  | notLoaded _ => "Failed to reload manifest, keeping current routes"
  | notBuilt _ => "Rebuild failed, keeping current routes"

/-- Takes in a new version of the manifest, whose base scopes the given ones
replace, if there are any.  A version that cannot be loaded or built leaves the
published table as it is. -/
def LiveTable.receive (live : LiveTable) (scopes : List String) (env : Environment)
    (text : String) : Reload × LiveTable :=
  match live.changes.receive text with
  | (.failed error, changes) => (.notLoaded error, { live with changes })
  | (.unchanged, changes) => (.unchanged, { live with changes })
  | (.changed m, changes) =>
      match (m.overrideScopes scopes).buildTable env with
      | .error error => (.notBuilt error, { live with changes })
      | .ok table =>
          let (previous, published) := live.published.replace table
          (.replaced previous, { changes, published })

end RouteTable
