import QueryGateway.Ingest.Router
import QueryGateway.Simulation.Peer

/-! # Publishing to a broker that may fail

The publishes of a run are numbered from zero. A pattern says which of them fail; the others go to
the broker.
-/

namespace QueryGateway.Simulation

/-- A broker with a pattern of failures. -/
structure Publishing where
  broker : Broker
  /-- Whether the publish of this number fails. -/
  fails : Nat → Bool
  /-- How many publishes there were. -/
  attempts : Nat

namespace Publishing

/-- Opens queues and fills them before anything else happens. -/
def prepare (capacity : Nat) (queues : List String) (prefill : List (String × Nat)) : Broker :=
  let opened := queues.foldl (fun b q => (b.declare q).toOption.getD b) (.new capacity)
  prefill.foldl (fun b (q, n) => (List.range n).foldl
    (fun b i => (b.publish q 0 (.raw (.ofText s!"prefill-{i}"))).2) b) opened

/-- The ticket of the one caller that publishes. -/
def ticket : Ticket := 0

/-- Starts a publish. -/
def publish (p : Publishing) (queue : String) (m : Message) :
    Progress (Except BrokerError Unit) × Publishing :=
  let number := p.attempts
  let p := { p with attempts := number + 1 }
  if p.fails number then (.ready (.error (.unavailable "publish refused")), p)
  else
    let (progress, broker) := p.broker.publish queue ticket m
    (progress, { p with broker })

/-- The messages of every queue, none once the broker is closed. -/
def contents (p : Publishing) : List (String × List Message) :=
  p.broker.queues.entries.map fun (name, q) => (name, if p.broker.closed then [] else q.buffer)

end Publishing

/-- What routing one payload led to. -/
inductive RouteOutcome where
  | malformed (error : HeaderError)
  | batch (outcome : BatchOutcome) (elapsed : Nat)
  | ends (reports : List FanOutReport) (elapsed : Nat)
  | brokenOff (fault : RouterFault)
  /-- The router waits for room in a queue that nobody empties. -/
  | stuck

namespace Publishing

/-- Answers a router without a connection; the clock counts its pauses. -/
def handle : Program.Handler Ingest (Time × Publishing)
  | .publish queue m, (now, p) =>
    match p.publish queue m with
    | (.ready result, p) => (some result, now, p)
    | (.waiting, p) => (none, now, p)
  | .pause ms, (now, p) => (some (), now + ms, p)
  | .acknowledge _, state => (some (.ok ()), state)

/-- Routes one payload. -/
def route (r : Router) (p : Publishing) (payload : String) : RouteOutcome × Publishing :=
  match Batch.parse payload with
  | .error e => (.malformed e, p)
  | .ok batch =>
    match batch.header.marker with
    | .batch id =>
      match (r.routeBatch batch id).run handle (0, p) with
      | (some outcome, elapsed, p) => (.batch outcome elapsed, p)
      | (none, _, p) => (.stuck, p)
    | .endOfStream =>
      match (r.fanOut batch.header).run.run handle (0, p) with
      | (some (.ok reports), elapsed, p) => (.ends reports elapsed, p)
      | (some (.error fault), _, p) => (.brokenOff fault, p)
      | (none, _, p) => (.stuck, p)

end Publishing

end QueryGateway.Simulation
