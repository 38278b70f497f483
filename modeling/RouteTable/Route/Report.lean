import RouteTable.Data.Value
import RouteTable.Route.Build
/-!
# Reports of a build

The measurements and events of a build in the form in which they are recorded.
-/

namespace RouteTable

open RouteTable.Data

/-- The names and values of the measurements.  A counter that nothing has
increased is not recorded; the size of the table is from the end of the build on. -/
def Build.metrics (b : Build) : List (String × Nat) :=
  [("route_resolver_entries_compiled_total", b.compiledCount),
    ("route_resolver_entries_deduplicated_total", b.duplicateCount),
    ("route_resolver_templates_rejected_total", b.rejectedCount)].filter (0 < ·.2) ++
  b.tableSize.toList.map fun size => ("route_resolver_table_size", size)

namespace BuildEvent

def fields : BuildEvent → List (String × Value)
  | compiled method rawTemplate | duplicate method rawTemplate =>
      [("method", .string method.name), ("template", .string rawTemplate)]
  | rejected error =>
      [("scope", .string error.scope), ("template", .string error.rawTemplate),
        ("method", .string error.method.name), ("error", .string error.source.message)]
  | finished routes rejections skipped =>
      [("routes", .integer routes), ("rejected", .integer rejections),
        ("skipped_declarations", .integer skipped)]

def toValue (e : BuildEvent) : Value :=
  .table (e.fields ++
    [("level", .string e.severity.name), ("message", .string e.message)])

end BuildEvent

end RouteTable
