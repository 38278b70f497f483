import RouteTable.Route.Table
/-!
# The published table

Readers take the table that is published at the time and keep it; a rebuild
puts a whole new table in its place.
-/

namespace RouteTable

structure PublishedTable where
  current : RoutingTable := .empty

/-- Publishes a table; the result holds the one that it replaces. -/
def PublishedTable.replace (p : PublishedTable) (table : RoutingTable) :
    RoutingTable × PublishedTable :=
  (p.current, ⟨table⟩)

end RouteTable
