import QueryGateway.Client.Producer
import QueryGateway.Client.Receiver
import QueryGateway.Simulation.Scene

/-! # Clients against a scripted peer -/

namespace QueryGateway.Simulation

/-- What a call led to. Without an outcome the call waits for ever and is abandoned. -/
def Line.call (now : Time) (l : Line) (p : Program Wire α) : Option α × Time × Line :=
  p.run Line.handle (now, l)

/-- What the peer has seen once this side is dropped. -/
def Line.finish (now : Time) (l : Line) : PeerReport :=
  ((l.drop now).advance none).peer.report ""

/-- A producer at work. -/
structure ProducerRun where
  now : Time
  line : Line
  producer : Producer

/-- What a producer may do. -/
inductive ProducerStep where
  | batch (queries : List QueryId) (records : List String)
  | endOfStream (queries : List QueryId)
  | reserve (queries : List QueryId)

/-- What a step led to. -/
inductive ProducerOutcome where
  | sent (id : UInt64)
  | ended
  | reserve (bytes : Nat)
  | failed (error : ClientError)
  | waiting

namespace ProducerRun

/-- A producer that has just connected. -/
def start (entity : Entity) (client : ClientId) (peer : Peer) : ProducerRun :=
  ⟨0, .new peer, .new entity client⟩

/-- Performs one step. -/
def step (r : ProducerRun) : ProducerStep → ProducerOutcome × ProducerRun
  | .batch queries records =>
    match r.line.call r.now (r.producer.sendBatch queries records) with
    | (some (.ok id, producer), now, line) => (.sent id, ⟨now, line, producer⟩)
    | (some (.error e, producer), now, line) => (.failed e, ⟨now, line, producer⟩)
    | (none, now, line) => (.waiting, { r with now, line })
  | .endOfStream queries =>
    match r.line.call r.now (r.producer.sendEnd queries) with
    | (some (.ok ()), now, line) => (.ended, { r with now, line })
    | (some (.error e), now, line) => (.failed e, { r with now, line })
    | (none, now, line) => (.waiting, { r with now, line })
  | .reserve queries => (.reserve (r.producer.headerReserve queries), r)

end ProducerRun

/-- A receiver at work. -/
structure ReceiverRun where
  now : Time
  line : Line
  receiver : Receiver

/-- What a read led to. -/
inductive ReceiverOutcome where
  | frame (frame : ResultFrame)
  /-- Every query has ended. -/
  | finished
  | failed (error : ClientError)
  | waiting

namespace ReceiverRun

/-- Announces a client. -/
def start (client : ClientId) (queries : List QueryId) (peer : Peer) :
    Except ClientError ReceiverRun :=
  match (Line.new peer).call 0 (Receiver.announce client queries) with
  | (some (.ok receiver), now, line) => .ok ⟨now, line, receiver⟩
  | (some (.error e), _) => .error e
  | (none, now, line) => .ok ⟨now, line, ⟨queries⟩⟩

/-- Takes the next frame. -/
def next (r : ReceiverRun) : ReceiverOutcome × ReceiverRun :=
  match r.line.call r.now r.receiver.next with
  | (some (.ok (some frame), receiver), now, line) => (.frame frame, ⟨now, line, receiver⟩)
  | (some (.ok none, receiver), now, line) => (.finished, ⟨now, line, receiver⟩)
  | (some (.error e, receiver), now, line) => (.failed e, ⟨now, line, receiver⟩)
  | (none, now, line) => (.waiting, { r with now, line })

end ReceiverRun

end QueryGateway.Simulation
