import QueryGateway.Proofs.Delivery.FanIn
import QueryGateway.Proofs.Ingest.Stream
import QueryGateway.Proofs.Queue.Serving

/-! # A pool of workers between the gateways

A client streams batches of one query into a queue, ends the stream, and waits for results. The
workers of the query take the messages of the queue, each one message at a time, and put what they
find into the results queue, from which the delivery side takes it. Who does the next step is left
open.
-/

namespace QueryGateway

/-! ## Workers -/

/-- A worker. -/
structure Replica where
  /-- What it still has to publish for the last message it took. -/
  outbox : List Message
  /-- It has taken the end of the stream, and takes nothing more. -/
  ended : Bool

namespace Replica

/-- A worker that has not done anything. -/
def idle : Replica := ⟨[], false⟩

/-- Nothing will come from this worker any more. -/
def Stopped (r : Replica) : Prop :=
  r.ended = true ∧ r.outbox = []

/-- A message tells a worker that the stream has ended. -/
def isEnd (m : Message) : Bool :=
  m.header? MessageHeader.type.name = some Entity.movies.endTag

/-- A worker that has taken a message, for which it found `rows` unless the message is an end. It
sends to the query and the client that the message names. -/
def take (m : Message) (rows : List Bytes) : Replica :=
  let query : QueryId := ⟨(m.header? MessageHeader.query.name).getD ""⟩
  let client : ClientId := ⟨(m.header? MessageHeader.client.name).getD ""⟩
  if isEnd m then ⟨[.resultEnd query client], true⟩
  else ⟨rows.map (.result query client), false⟩

/-- The rows among the results for a message. -/
def rowsFor (m : Message) (rows : List Bytes) : List Message :=
  if isEnd m then [] else (take m rows).outbox

theorem ended_take (m : Message) (rows : List Bytes) : (take m rows).ended = isEnd m := by
  by_cases hend : isEnd m = true
  · simp [take, hend]
  · simp [take, hend]

end Replica

/-! ## The pool -/

/-- What a pool works on. The gateways have the same tables; they send as many ends into the queue
of the query as they await from its workers. -/
structure Setting where
  routes : List Route
  counts : List (QueryId × Nat)
  tables : Tables
  built : Tables.build routes counts = .ok tables
  retries : UInt32
  ackTimeout : Nat
  /-- The header that ends the stream. -/
  line : String
  header : Header
  parsed : Header.parse line = .ok header
  query : QueryId
  names : header.queries = [query]
  movies : header.entity = .movies
  /-- The batches of the stream with their numbers. -/
  batches : List (Batch × UInt64)
  likewise : ∀ batch ∈ batches, batch.1.header.queries = [query] ∧
    batch.1.header.entity = .movies ∧ batch.1.header.client = header.client
  /-- The queue that the workers read. -/
  queue : String
  routed : tables.routing.queue? query .movies = some queue
  /-- The queue that the workers write. -/
  results : String
  separate : queue ≠ results
  workers : Nat
  fanOut : tables.multiplicity.ingest? query .movies = some workers
  fanIn : tables.multiplicity.resultCount query = workers
  /-- How many messages a queue can hold. -/
  capacity : Nat

namespace Setting

def router (S : Setting) : Router := ⟨S.tables, S.retries⟩

def consumer (S : Setting) : Consumer := ⟨S.tables.multiplicity, S.ackTimeout⟩

def client (S : Setting) : ClientId := S.header.client

end Setting

/-- A pool at a moment, with what has happened so far. -/
structure Pool where
  broker : Broker
  /-- What the router has still to do. -/
  router : Program Ingest (Except RouterFault (List FanOutReport))
  replicas : List Replica
  delivery : Dispatch
  /-- The messages that workers have taken. -/
  taken : List Message
  /-- The rows that workers have found. -/
  found : List Message
  /-- The messages that the delivery side has handled. -/
  handled : List Message
  /-- How often the last message awaited for the client's query has been handled. -/
  completions : Nat

namespace Pool

variable (S : Setting)

/-- The pool before anything has happened. -/
def start (owed : Debts) : Pool where
  broker := .withQueues S.capacity S.queue S.results
  router := S.router.stream S.header S.batches
  replicas := List.replicate S.workers .idle
  delivery := ⟨.empty, owed, []⟩
  taken := []
  found := []
  handled := []
  completions := 0

/-- A step of a pool. A call that would have to wait is no step; it is made when it can be
answered. -/
inductive Step : Pool → Pool → Prop where
  /-- The router publishes a message. -/
  | publish {s : Pool} {queue : String} {m : Message} {ticket : Ticket}
      {next : Except BrokerError Unit → Program Ingest (Except RouterFault (List FanOutReport))}
      {answer : Except BrokerError Unit} {broker : Broker} :
      s.router = .perform (I := Ingest) (.publish queue m) next →
      s.broker.publish queue ticket m = (.ready answer, broker) →
      Step s { s with broker, router := next answer }
  /-- The router waits before it tries again. -/
  | pause {s : Pool} {milliseconds : Nat}
      {next : Unit → Program Ingest (Except RouterFault (List FanOutReport))} :
      s.router = .perform (I := Ingest) (.pause milliseconds) next →
      Step s { s with router := next () }
  /-- A worker that has nothing to publish takes a message and finds some rows. -/
  | take {s : Pool} {before after : List Replica} {m : Message} {ticket : Ticket} {broker : Broker}
      (rows : List Bytes) :
      s.replicas = before ++ .idle :: after →
      s.broker.next S.queue ticket = (.ready (some m), broker) →
      Step s { s with
        broker
        replicas := before ++ .take m rows :: after
        taken := s.taken ++ [m]
        found := s.found ++ Replica.rowsFor m rows }
  /-- A worker publishes the next of its results. -/
  | reply {s : Pool} {before after : List Replica} {m : Message} {outbox : List Message}
      {ended : Bool} {ticket : Ticket} {broker : Broker} {answer : Except BrokerError Unit} :
      s.replicas = before ++ ⟨m :: outbox, ended⟩ :: after →
      s.broker.publish S.results ticket m = (.ready answer, broker) →
      Step s { s with broker, replicas := before ++ ⟨outbox, ended⟩ :: after }
  /-- The delivery side handles the next message, whoever is registered and whatever the clients
  reply. -/
  | handle {s : Pool} {m : Message} {ticket : Ticket} {broker : Broker} (w : World Outlet) :
      s.broker.next S.results ticket = (.ready (some m), broker) →
      Step s { s with
        broker
        delivery := (S.consumer.turn w s.delivery m).2
        handled := s.handled ++ [m]
        completions := s.completions +
          if S.consumer.completes s.delivery.counts S.client S.query m then 1 else 0 }

/-- The pools that a setting can lead to. -/
inductive Reachable : Pool → Prop where
  | start (owed : Debts) : Reachable (start S owed)
  | step {s s' : Pool} : Reachable s → Step S s s' → Reachable s'

/-- Everything is over: all messages of the stream were taken, every worker has stopped, and the
delivery side has handled all rows that were found. -/
structure Finished (s : Pool) : Prop where
  router : ∃ reports, s.router = .done (.ok reports)
  queue : s.broker.messages S.queue = []
  results : s.broker.messages S.results = []
  taken : s.taken = S.batches.map (Router.batchMessage S.query) ++
    List.replicate S.workers (.endOfStream S.query S.client .movies)
  stopped : ∀ r ∈ s.replicas, r.Stopped
  handled : s.handled.Perm
    (s.found ++ List.replicate S.workers (.resultEnd S.query S.client))

end Pool

end QueryGateway
