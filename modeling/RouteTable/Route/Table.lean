import RouteTable.Route.Entry
/-!
# Routing tables

The compiled routes in the order in which they came, each route once.  Of
several entries for the same route the first one stays.
-/

namespace RouteTable

/-- An ordered set of compiled routes. -/
structure RoutingTable where
  entries : List RouteEntry
  distinct : (entries.map RouteEntry.identity).Nodup

namespace RoutingTable

def empty : RoutingTable := ⟨[], List.nodup_nil⟩

instance : Inhabited RoutingTable := ⟨empty⟩

def contains (t : RoutingTable) (e : RouteEntry) : Bool :=
  t.entries.any (·.same e)

theorem contains_eq_false_iff (t : RoutingTable) (e : RouteEntry) :
    t.contains e = false ↔ e.identity ∉ t.entries.map RouteEntry.identity := by
  simp only [contains, RouteEntry.same, List.any_eq_false, decide_eq_true_eq, List.mem_map,
    not_exists, not_and]

/-- Adds an entry at the end, unless the table has its route. -/
def insert (t : RoutingTable) (e : RouteEntry) : RoutingTable :=
  if h : t.contains e then t
  else
    { entries := t.entries ++ [e]
      distinct := by
        have hnew := (t.contains_eq_false_iff e).1 (by simpa using h)
        rw [List.map_append, List.nodup_append]
        refine ⟨t.distinct, by simp, ?_⟩
        intro a ha b hb heq
        rw [List.map_singleton, List.mem_singleton] at hb
        exact hnew (hb ▸ heq ▸ ha) }

def offer (t : RoutingTable) (e : RouteEntry) : Bool × RoutingTable :=
  (!t.contains e, t.insert e)

def extend (t : RoutingTable) (es : List RouteEntry) : RoutingTable :=
  es.foldl insert t

def ofList (es : List RouteEntry) : RoutingTable := empty.extend es

def size (t : RoutingTable) : Nat := t.entries.length

def get? (t : RoutingTable) (index : Nat) : Option RouteEntry := t.entries[index]?

def indexOf? (t : RoutingTable) (e : RouteEntry) : Option Nat :=
  t.entries.findIdx? (·.same e)

/-- The route that serves the path for a method.  An exact path wins over every
pattern, and an earlier entry over a later one. -/
def findExact (t : RoutingTable) (path : String) (method : Method) : Option RouteEntry :=
  (t.entries.find? fun e => e.method = method && e.isExact path) <|>
    t.entries.find? fun e => e.method = method && e.accepts path

/-- All routes that serve the path: first the exact ones, then those that only
their pattern finds. -/
def findByPath (t : RoutingTable) (path : String) : List RouteEntry :=
  t.entries.filter (·.isExact path) ++
    t.entries.filter fun e => !e.isExact path && e.accepts path

def findByTag (t : RoutingTable) (tag : Tag) : List RouteEntry :=
  t.entries.filter fun e => e.hasGroupTag tag || e.hasRouteTag tag

def findByGroupTag (t : RoutingTable) (tag : Tag) : List RouteEntry :=
  t.entries.filter (·.hasGroupTag tag)

def findByRouteTag (t : RoutingTable) (tag : Tag) : List RouteEntry :=
  t.entries.filter (·.hasRouteTag tag)

def findByParameterTag (t : RoutingTable) (tag : Tag) : List RouteEntry :=
  t.entries.filter (·.hasParameterTag tag)

end RoutingTable

end RouteTable
