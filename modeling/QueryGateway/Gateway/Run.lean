import QueryGateway.Config.Basic
import QueryGateway.System.Host

/-! # Running the gateway

The gateway builds its tables, declares every queue that a route or the results need, opens its
listeners in a fixed order, and runs until it is told to stop; then the broker is closed. It does
not start with a fault in any of these.
-/

namespace QueryGateway.Gateway

/-- What starting or running the gateway may fail with. The broker is handed on in any case. -/
abbrev Run (α : Type) := ExceptT GatewayError (StateT Broker (Program Host)) α

/-- A request to the machine. -/
def host (p : Program Host α) : Run α := ExceptT.lift (StateT.lift p)

/-- Declares a queue. One that was declared before stays as it is. -/
def declare (log : Log) (queue : String) : Run Unit := do
  let before ← get
  match before.declare queue with
  | .error e => throw (.broker e)
  | .ok broker =>
    set broker
    if !before.queues.contains queue then
      host (Host.log log .debug s!"Queue {queue} declared")

/-- Opens a listener. -/
def bind (listener : Listener) (address : String) : Run Unit := do
  match ← host (Host.bind listener address) with
  | .error fault => throw (.bind listener address fault)
  | .ok () => return

/-- The listeners that the settings ask for, with their addresses, in the order in which they are
opened. -/
def listeners (c : Config) : List (Listener × String) :=
  Entity.all.map (fun entity => (.records entity, c.input.address entity)) ++
    (c.input.connectionsAddress.map fun address => (.connections, address)).toList ++
    [(.results, c.output.address)]

/-- Starts the gateway, runs it until it is told to stop, and closes the broker. -/
def run (c : Config) (log : Log) : Run Unit := do
  host (Host.log log .info "Starting the gateway")
  match c.tables with
  | .error e => throw (.config (.routing e))
  | .ok tables =>
    host (Host.log log .info s!"Routing table with {tables.routing.size} routes")
    (tables.routing.queueNames ++ [c.output.resultsQueue]).forM (declare log)
    (listeners c).forM fun (listener, address) => bind listener address
    let broker ← host (Host.serve ⟨c, tables, ← get, log⟩)
    set broker.close
    host (Host.log log .info "Gateway stopped")

end QueryGateway.Gateway
