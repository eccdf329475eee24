import QueryGateway.Routing.Route

/-! # Multiplicities

How many end-of-stream messages the readers of a queue need, and how many the final workers of a
query send back. No count is zero.
-/

namespace QueryGateway

/-- The end-of-stream counts on the way to the workers and on the way back. -/
structure Multiplicity where
  ingest : Table RouteKey Nat
  results : Table QueryId Nat

namespace Multiplicity

/-- The query of the first zero count. -/
def zeroCount? (key : κ → QueryId) (counts : List (κ × Nat)) : Option QueryId :=
  (counts.find? (·.2 = 0)).map (key ·.1)

/-- The counts, unless one is zero. -/
def ofCounts (ingest : Table RouteKey Nat) (results : Table QueryId Nat) :
    Except RoutingError Multiplicity :=
  match zeroCount? Prod.fst ingest.entries, zeroCount? id results.entries with
  | some query, _ => .error (.zeroMultiplicity query)
  | none, some query => .error (.zeroMultiplicity query)
  | none, none => .ok ⟨ingest, results⟩

/-- How many end-of-stream messages the queue of a routed pair needs. -/
def ingest? (m : Multiplicity) (query : QueryId) (entity : Entity) : Option Nat :=
  m.ingest.get? (query, entity)

/-- How many end-of-stream messages of `query` come back for each client; one if not set. -/
def resultCount (m : Multiplicity) (query : QueryId) : Nat :=
  (m.results.get? query).getD 1

end Multiplicity

/-- The two read-only tables that every connection works from. -/
structure Tables where
  routing : RoutingTable
  multiplicity : Multiplicity

/-- The tables of a list of routes and of the counts of the results queue. Faults of the routes
are reported before zero counts. -/
def Tables.build (routes : List Route) (resultCounts : List (QueryId × Nat)) :
    Except RoutingError Tables := do
  let routing ← RoutingTable.ofRoutes routes
  let ingest := Table.ofList (routes.map fun r => (r.key, r.endCount))
  let multiplicity ← Multiplicity.ofCounts ingest (Table.ofList resultCounts)
  return ⟨routing, multiplicity⟩

end QueryGateway
