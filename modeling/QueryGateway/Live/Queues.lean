import Std.Sync.Mutex
import QueryGateway.Live.Stop
import QueryGateway.Queue.Broker

/-! # A broker for many tasks

The tasks of the gateway share one broker. A task whose call has to wait sleeps until the broker
has changed, and polls its call again.
-/

namespace QueryGateway.Live

/-- A shared broker, with the next ticket to hand out. -/
structure Queues where
  state : Std.Mutex (Broker × Ticket)
  changed : Std.Condvar

namespace Queues

/-- Shares a broker. -/
def ofBroker (broker : Broker) : IO Queues :=
  return ⟨← Std.Mutex.new (broker, 0), ← Std.Condvar.new⟩

/-- A task that holds the broker. -/
abbrev Held (α : Type) := Std.AtomicT (Broker × Ticket) IO α

/-- Puts back the broker after a call, and wakes the others if something came of it. -/
def update (q : Queues) (ticket : Ticket) : Progress α × Broker → Held (Progress α)
  | (progress, broker) => do
    let (_, fresh) ← get
    set (broker, max fresh (ticket + 1))
    match progress with
    | .ready _ => q.changed.notifyAll
    | .waiting => pure ()
    return progress

/-- Waits until a call has a result. It is abandoned if there is something to do `instead`. -/
partial def finish (q : Queues) (name : String) (ticket : Ticket) (instead : IO (Option α))
    (poll : Broker → Progress α × Broker) : Progress α → Held α
  | .ready result => return result
  | .waiting => do
    match ← instead with
    | some result =>
      let (broker, fresh) ← get
      set (broker.abandon name ticket, fresh)
      q.changed.notifyAll
      return result
    | none =>
      q.changed.wait q.state.mutex
      let progress ← q.update ticket (poll (← get).1)
      q.finish name ticket instead poll progress

/-- Publishes a message, as soon as there is room. -/
def publish (q : Queues) (name : String) (m : Message) : IO (Except BrokerError Unit) :=
  q.state.atomically do
    let (broker, ticket) ← get
    let progress ← q.update ticket (broker.publish name ticket m)
    q.finish name ticket (return none) (·.pollPublish name ticket) progress

/-- Takes the next message, as soon as there is one. There is none once the broker is closed or the
gateway stops. -/
def next (q : Queues) (name : String) (stop : Stop) : IO (Option Message) := do
  if ← stop.isGiven then return none
  q.state.atomically do
    let (broker, ticket) ← get
    let progress ← q.update ticket (broker.next name ticket)
    q.finish name ticket (return if ← stop.isGiven then some none else none)
      (·.pollNext name ticket) progress

/-- Wakes every task that waits. -/
def wake (q : Queues) : IO Unit :=
  q.state.atomically (q.changed.notifyAll : Held Unit)

/-- The broker as it is now. -/
def broker (q : Queues) : IO Broker :=
  q.state.atomically (return (← get).1 : Held Broker)

/-- Closes the broker. -/
def close (q : Queues) : IO Unit := do
  q.state.atomically (modify (fun (broker, ticket) => (broker.close, ticket)) : Held Unit)
  q.wake

end Queues

end QueryGateway.Live
