import QueryGateway.Program
import QueryGateway.Queue.Broker
import QueryGateway.Records.Projection
import QueryGateway.Routing.Multiplicity
import QueryGateway.Wire.Ack
import QueryGateway.Wire.Batch
import QueryGateway.Wire.Error

/-! # Routing of producers' frames

A batch is projected once and published to the queue of each query it names. The end of a stream
is told to every worker of each of these queues; a failed publish of such a message is tried again
after a pause that grows with the attempts. Queries without a route are left out. A router whose
attempts cannot be counted breaks off at the first worker that is to be told.
-/

namespace QueryGateway

/-- What a producer's session may ask for. -/
inductive Ingest.Request where
  | publish (queue : String) (message : Message)
  | pause (milliseconds : Nat)
  | acknowledge (ack : Ack)

/-- The interface of a producer's session, apart from its reads. -/
def Ingest : Interface where
  Request := Ingest.Request
  Answer
    | .publish _ _ => Except BrokerError Unit
    | .pause _ => Unit
    | .acknowledge _ => Except WireError Unit

namespace Ingest

/-- Publishes a message; the answer is whether the broker took it. -/
def publish (queue : String) (message : Message) : Program Ingest Bool :=
  .perform (I := Ingest) (.publish queue message) fun answer => .done answer.isOk

/-- Waits. -/
def pause (milliseconds : Nat) : Program Ingest Unit :=
  .ask (I := Ingest) (.pause milliseconds)

/-- Answers a frame. -/
def acknowledge (ack : Ack) : Program Ingest (Except WireError Unit) :=
  .ask (I := Ingest) (.acknowledge ack)

end Ingest

/-- The pause after the first failed attempt, in milliseconds. -/
def retryPause : Nat := 25

/-- How the end of a stream was told to the workers of one query. -/
structure FanOutReport where
  query : QueryId
  queue : String
  expected : Nat
  published : Nat
  deriving DecidableEq, Repr

/-- Every worker was told. -/
def FanOutReport.isComplete (r : FanOutReport) : Bool :=
  r.published = r.expected

/-- Which queries of a batch got it. -/
structure BatchOutcome where
  published : List QueryId
  /-- The queries without a route, and those whose publish failed. -/
  skipped : List QueryId
  deriving DecidableEq, Repr

/-- Routes frames by the tables. -/
structure Router where
  tables : Tables
  /-- How often a failed end-of-stream publish is repeated. -/
  retries : UInt32

/-- Why a router breaks off. -/
inductive RouterFault where
  /-- The number of attempts does not fit into the word of the retries. -/
  | overflow
  deriving DecidableEq, Repr

/-- The text of the fault. -/
def RouterFault.message : RouterFault → String
  | overflow => "Number of attempts too large"

namespace Router

/-- What a router does until it has a result or breaks off. -/
abbrev Task (α : Type) := ExceptT RouterFault (Program Ingest) α

/-- The queue of a query in a header. -/
def queue? (r : Router) (h : Header) (query : QueryId) : Option String :=
  r.tables.routing.queue? query h.entity

/-- Publishes a projected batch to one query after the other. -/
def publishBatch (r : Router) (h : Header) (id : UInt64) (body : Bytes) :
    List QueryId → Program Ingest BatchOutcome
  | [] => return ⟨[], []⟩
  | query :: rest => do
    let sent ← match r.queue? h query with
      | some queue => Ingest.publish queue (.batch query h.client id h.entity body)
      | none => pure false
    let outcome ← r.publishBatch h id body rest
    return if sent then { outcome with published := query :: outcome.published }
      else { outcome with skipped := query :: outcome.skipped }

/-- Publishes a batch to every query that its header names. -/
def routeBatch (r : Router) (batch : Batch) (id : UInt64) : Program Ingest BatchOutcome :=
  let projection := project batch.header.entity batch.records
  r.publishBatch batch.header id (.ofText projection.body) batch.header.queries

/-- How many times a message is tried. -/
def attempts (r : Router) : Except RouterFault Nat :=
  if r.retries.toNat + 1 < UInt32.size then .ok (r.retries.toNat + 1) else .error .overflow

/-- Tries a publish `left` more times, the next attempt being number `attempt`. -/
def publishWithin (queue : String) (message : Message) :
    (left attempt : Nat) → Program Ingest Bool
  | 0, _ => return false
  | left + 1, attempt => do
    if ← Ingest.publish queue message then
      return true
    if left = 0 then
      return false
    Ingest.pause (retryPause * attempt)
    publishWithin queue message left (attempt + 1)

/-- Publishes one end-of-stream message. -/
def publishEnd (r : Router) (queue : String) (message : Message) : Task Bool := do
  let attempts ← r.attempts
  publishWithin queue message attempts 1

/-- Publishes `count` end-of-stream messages, up to the first one that fails for good. The result
is how many were published. -/
def publishEnds (r : Router) (queue : String) (message : Message) : Nat → Task Nat
  | 0 => return 0
  | count + 1 => do
    if ← r.publishEnd queue message then
      return (← r.publishEnds queue message count) + 1
    return 0

/-- How many workers read the records of a kind for a query. -/
def workers (r : Router) (query : QueryId) (entity : Entity) : Nat :=
  (r.tables.multiplicity.ingest? query entity).getD 1

/-- Tells the workers of one query after the other. -/
def fanOutTo (r : Router) (h : Header) : List QueryId → Task (List FanOutReport)
  | [] => return []
  | query :: rest =>
    match r.queue? h query with
    | none => r.fanOutTo h rest
    | some queue => do
      let expected := r.workers query h.entity
      let published ← r.publishEnds queue (.endOfStream query h.client h.entity) expected
      return ⟨query, queue, expected, published⟩ :: (← r.fanOutTo h rest)

/-- Tells the workers of every routed query in a header that the stream has ended. -/
def fanOut (r : Router) (h : Header) : Task (List FanOutReport) :=
  r.fanOutTo h h.queries

end Router

end QueryGateway
