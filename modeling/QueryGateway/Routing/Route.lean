import QueryGateway.Entity
import QueryGateway.Table

/-! # Routes

A route says which queue a query reads one kind of records from, and how many workers read that
queue. The routing table answers look-ups; it refuses blank queue names and a pair of query and
entity that has two routes.
-/

namespace QueryGateway

/-- One route: `query` reads the records of kind `entity` from `queue`. -/
structure Route where
  query : QueryId
  entity : Entity
  queue : String
  /-- How many workers read the queue. Each needs an end-of-stream message of its own. -/
  endCount : Nat
  deriving DecidableEq, Repr

/-- What a route is looked up by. -/
abbrev RouteKey := QueryId × Entity

/-- The look-up key of a route. -/
def Route.key (r : Route) : RouteKey :=
  (r.query, r.entity)

/-- Why routes and counts do not form tables. -/
inductive RoutingError where
  | duplicateRoute (query : QueryId) (entity : Entity)
  | emptyQueue (query : QueryId) (entity : Entity)
  | zeroMultiplicity (query : QueryId)
  deriving DecidableEq, Repr

/-- The text of the error. -/
def RoutingError.message : RoutingError → String
  | duplicateRoute q e => s!"Duplicate route for query {q.text} on {e.name}"
  | emptyQueue q e => s!"Route for query {q.text} on {e.name} has an empty queue name"
  | zeroMultiplicity q => s!"EOF multiplicity for query {q.text} must be at least 1"

/-- The queue of every routed pair of query and entity. -/
structure RoutingTable where
  queues : Table RouteKey String

namespace RoutingTable

/-- Adds one route to the routes before it. -/
def addRoute (table : Table RouteKey String) (r : Route) :
    Except RoutingError (Table RouteKey String) :=
  if Text.isBlankText r.queue then .error (.emptyQueue r.query r.entity)
  else if table.contains r.key then .error (.duplicateRoute r.query r.entity)
  else .ok (table.insert r.key r.queue)

/-- The table of a list of routes; the first route at fault is reported. -/
def ofRoutes (routes : List Route) : Except RoutingError RoutingTable :=
  RoutingTable.mk <$> routes.foldlM addRoute .empty

/-- The queue that `query` reads records of kind `entity` from. -/
def queue? (t : RoutingTable) (query : QueryId) (entity : Entity) : Option String :=
  t.queues.get? (query, entity)

/-- Puts a name into an ascending list, unless it is there. -/
def insertName (name : String) : List String → List String
  | [] => [name]
  | n :: rest =>
    if name < n then name :: n :: rest
    else if name = n then n :: rest
    else n :: insertName name rest

/-- The routed queues, each once, in ascending order. -/
def queueNames (t : RoutingTable) : List String :=
  t.queues.values.foldr insertName []

/-- The number of routes. -/
def size (t : RoutingTable) : Nat :=
  t.queues.size

end RoutingTable

end QueryGateway
