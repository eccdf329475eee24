import QueryGateway.Queue.Message

/-! # The broker

A broker keeps named queues in memory. Publishers wait for room and consumers for messages, each
in the order in which they came. A call is known by a ticket: it is started once, polled as often
as its caller is woken, and may be abandoned while it waits. Room that a consumer makes is given to
the first waiting publisher at once, so that none that comes later gets ahead of it.
-/

namespace QueryGateway

/-- Why the broker refused a request. -/
inductive BrokerError where
  | closed
  | unknownQueue (name : String)
  | unavailable (reason : String)
  deriving DecidableEq, Repr

/-- The text of the error. -/
def BrokerError.message : BrokerError → String
  | closed => "Broker is closed"
  | unknownQueue name => "Queue not declared: " ++ name
  | unavailable reason => "Broker unavailable: " ++ reason

/-- Names a call while it waits. -/
abbrev Ticket := Nat

/-- How far a call has come. -/
inductive Progress (α : Type) where
  | ready (result : α)
  | waiting
  deriving DecidableEq, Repr

/-- One queue. -/
structure QueueState where
  /-- The messages in the order in which they will be handed out. -/
  buffer : List Message
  /-- Publishers that have room but have not put in their message yet. -/
  granted : List (Ticket × Message)
  /-- Publishers that wait for room. -/
  publishers : List (Ticket × Message)
  /-- Consumers that wait for a message. -/
  consumers : List Ticket

namespace QueueState

/-- A queue that was just declared. -/
def empty : QueueState := ⟨[], [], [], []⟩

/-- The room in use: messages, and the places of publishers that have not put in theirs. -/
def pending (q : QueueState) : Nat :=
  q.buffer.length + q.granted.length

/-- Gives room to waiting publishers, in their order, as long as there is some. -/
def grant (capacity : Nat) (q : QueueState) : QueueState :=
  let count := capacity - q.pending
  { q with
    granted := q.granted ++ q.publishers.take count
    publishers := q.publishers.drop count }

/-- Takes the first message out. -/
def take (capacity : Nat) (q : QueueState) : Option (Message × QueueState) :=
  match q.buffer with
  | [] => none
  | m :: rest => some (m, { q with buffer := rest }.grant capacity)

/-- Forgets a call that waits. Its place goes to the next publisher. -/
def abandon (capacity : Nat) (ticket : Ticket) (q : QueueState) : QueueState :=
  { q with
    granted := q.granted.filter (·.1 ≠ ticket)
    publishers := q.publishers.filter (·.1 ≠ ticket)
    consumers := q.consumers.filter (· ≠ ticket) }.grant capacity

end QueueState

/-- The broker. -/
structure Broker where
  /-- How many messages each queue holds at most. -/
  capacity : Nat
  closed : Bool
  queues : Table String QueueState

namespace Broker

/-- A broker without queues. A queue always has room for one message. -/
def new (capacity : Nat) : Broker := ⟨max capacity 1, false, .empty⟩

/-- Replaces a queue. -/
def setQueue (b : Broker) (name : String) (q : QueueState) : Broker :=
  { b with queues := b.queues.insert name q }

/-- Opens a queue, unless it is there already. -/
def declare (b : Broker) (name : String) : Except BrokerError Broker :=
  if b.closed then .error .closed
  else if b.queues.contains name then .ok b
  else .ok (b.setQueue name .empty)

/-- Starts to publish a message. -/
def publish (b : Broker) (name : String) (ticket : Ticket) (m : Message) :
    Progress (Except BrokerError Unit) × Broker :=
  if b.closed then (.ready (.error .closed), b)
  else match b.queues.get? name with
    | none => (.ready (.error (.unknownQueue name)), b)
    | some q =>
      if q.pending < b.capacity then
        (.ready (.ok ()), b.setQueue name { q with buffer := q.buffer ++ [m] })
      else (.waiting, b.setQueue name { q with publishers := q.publishers ++ [(ticket, m)] })

/-- Goes on with a publish call that waits. -/
def pollPublish (b : Broker) (name : String) (ticket : Ticket) :
    Progress (Except BrokerError Unit) × Broker :=
  match b.queues.get? name with
  | none => (.ready (.error (.unknownQueue name)), b)
  | some q =>
    if b.closed then (.ready (.error .closed), b.setQueue name (q.abandon b.capacity ticket))
    else match q.granted.find? (·.1 = ticket) with
      | some (_, m) =>
        (.ready (.ok ()), b.setQueue name
          { q with
            buffer := q.buffer ++ [m]
            granted := q.granted.filter (·.1 ≠ ticket) })
      | none => (.waiting, b)

/-- Checks that a queue can be consumed. All consumers of a queue compete for its messages. -/
def consume (b : Broker) (name : String) : Except BrokerError Unit :=
  if b.closed then .error .closed
  else if b.queues.contains name then .ok ()
  else .error (.unknownQueue name)

/-- Starts to wait for the next message. There is none once the broker is closed. -/
def next (b : Broker) (name : String) (ticket : Ticket) : Progress (Option Message) × Broker :=
  if b.closed then (.ready none, b)
  else match b.queues.get? name with
    | none => (.ready none, b)
    | some q =>
      match q.consumers, q.take b.capacity with
      | [], some (m, q) => (.ready (some m), b.setQueue name q)
      | _, _ => (.waiting, b.setQueue name { q with consumers := q.consumers ++ [ticket] })

/-- Goes on with a call that waits for a message. Only the first of them gets one. -/
def pollNext (b : Broker) (name : String) (ticket : Ticket) : Progress (Option Message) × Broker :=
  match b.queues.get? name with
  | none => (.ready none, b)
  | some q =>
    if b.closed then (.ready none, b.setQueue name (q.abandon b.capacity ticket))
    else if q.consumers.head? = some ticket then
      match { q with consumers := q.consumers.tail }.take b.capacity with
      | some (m, q) => (.ready (some m), b.setQueue name q)
      | none => (.waiting, b)
    else (.waiting, b)

/-- Gives up a call that waits. -/
def abandon (b : Broker) (name : String) (ticket : Ticket) : Broker :=
  match b.queues.get? name with
  | none => b
  | some q => b.setQueue name (q.abandon b.capacity ticket)

/-- Refuses everything from now on. Calls that wait notice it when they are polled. -/
def close (b : Broker) : Broker :=
  { b with closed := true }

/-- How many messages a queue counts as waiting. -/
def pending? (b : Broker) (name : String) : Option Nat :=
  (b.queues.get? name).map QueueState.pending

/-- The messages in a queue. -/
def messages (b : Broker) (name : String) : List Message :=
  match b.queues.get? name with
  | none => []
  | some q => q.buffer

end Broker

end QueryGateway
