import QueryGateway.Queue.Broker
import QueryGateway.Simulation.Steps

/-! # Callers of a broker

Callers publish and consume, in the foreground or as tasks of their own. A caller in the foreground
acts before any task gets its turn, and gives up if it has to wait too long; then the tasks have
had their turns.
-/

namespace QueryGateway.Simulation

/-- What a call of a caller is for. -/
inductive QueueJob where
  | publish (queue : String)
  | next (queue : String)
  deriving DecidableEq, Repr

/-- What a call led to. -/
inductive QueueResult where
  | published (result : Except BrokerError Unit)
  | message (message : Message)
  /-- The subscription is over. -/
  | ended

/-- A task that waits, or its result. -/
structure QueueTask where
  ticket : Ticket
  job : QueueJob
  result : Option QueueResult

/-- A broker and its callers. -/
structure QueueRun where
  broker : Broker
  /-- The queue of each subscription. -/
  subscriptions : Table String String
  /-- The tasks in the order in which they were started. -/
  tasks : List QueueTask
  /-- The tickets of the tasks whose results can still be asked for. -/
  names : Table String Ticket

/-- What a caller may do. -/
inductive QueueStep where
  | declare (queue : String)
  | publish (queue : String) (message : Message)
  | publishTask (queue : String) (message : Message) (task : String)
  | nextTask (subscription task : String)
  | task (name : String)
  | consume (queue subscription : String)
  | next (subscription : String)
  | pending (queue : String)
  | close
  | isClosed

/-- What a step led to. -/
inductive QueueOutcome where
  | ok
  | failed (error : BrokerError)
  | result (result : QueueResult)
  | full
  | empty
  | started
  | waiting
  | noTask
  | noSubscription
  | pending (count : Option Nat)
  | closed (closed : Bool)

namespace QueueRun

/-- A broker without callers. -/
def new (capacity : Nat) : QueueRun := ⟨.new capacity, .empty, [], .empty⟩

/-- Polls a call that waits. -/
def poll (b : Broker) (ticket : Ticket) : QueueJob → Option QueueResult × Broker
  | .publish queue =>
    match b.pollPublish queue ticket with
    | (.ready result, b) => (some (.published result), b)
    | (.waiting, b) => (none, b)
  | .next queue =>
    match b.pollNext queue ticket with
    | (.ready (some m), b) => (some (.message m), b)
    | (.ready none, b) => (some .ended, b)
    | (.waiting, b) => (none, b)

/-- Gives every task one turn. -/
def turn : List QueueTask → Broker → List QueueTask × Broker
  | [], b => ([], b)
  | t :: rest, b =>
    let (result, b) := match t.result with
      | some result => (some result, b)
      | none => poll b t.ticket t.job
    let (rest, b) := turn rest b
    ({ t with result } :: rest, b)

/-- Gives the tasks `rounds` turns. -/
def turns : (rounds : Nat) → QueueRun → QueueRun
  | 0, r => r
  | rounds + 1, r =>
    let (tasks, broker) := turn r.tasks r.broker
    turns rounds { r with tasks, broker }

/-- Gives the tasks turns until all that are left wait. Every turn but the last finishes one. -/
def settle (r : QueueRun) : QueueRun :=
  turns (r.tasks.length + 1) r

/-- Adds a call as a task. -/
def addTask (r : QueueRun) (name : Option String) (job : QueueJob) (result : Option QueueResult) :
    QueueRun :=
  let ticket := r.tasks.length
  { r with
    tasks := r.tasks ++ [⟨ticket, job, result⟩]
    names := name.elim r.names fun name => r.names.insert name ticket }

/-- Starts to publish. -/
def startPublish (r : QueueRun) (name : Option String) (queue : String) (m : Message) : QueueRun :=
  let (progress, broker) := r.broker.publish queue r.tasks.length m
  let result := match progress with
    | .ready result => some (.published result)
    | .waiting => none
  { r with broker }.addTask name (.publish queue) result

/-- Starts to wait for a message. -/
def startNext (r : QueueRun) (name : Option String) (queue : String) : QueueRun :=
  let (progress, broker) := r.broker.next queue r.tasks.length
  let result := match progress with
    | .ready (some m) => some (.message m)
    | .ready none => some .ended
    | .waiting => none
  { r with broker }.addTask name (.next queue) result

/-- The result of the latest call, made in the foreground. If it has to wait, the tasks have their
turns, and the call is given up if it still waits then. -/
def foreground (r : QueueRun) : Option QueueResult × QueueRun :=
  let latest (r : QueueRun) := r.tasks.getLast?.bind QueueTask.result
  match latest r with
  | some result => (some result, r)
  | none =>
    let r := r.settle
    match latest r, r.tasks.getLast? with
    | some result, _ => (some result, r)
    | none, some ⟨ticket, .publish queue, _⟩ | none, some ⟨ticket, .next queue, _⟩ =>
      (none, { r with broker := r.broker.abandon queue ticket, tasks := r.tasks.dropLast })
    | none, none => (none, r)

/-- Performs one step. -/
def step (r : QueueRun) : QueueStep → QueueOutcome × QueueRun
  | .declare queue =>
    match r.broker.declare queue with
    | .ok broker => (.ok, { r with broker })
    | .error e => (.failed e, r)
  | .publish queue m =>
    match (r.startPublish none queue m).foreground with
    | (some result, r) => (.result result, r)
    | (none, r) => (.full, r)
  | .publishTask queue m task => (.started, (r.startPublish (some task) queue m).settle)
  | .nextTask subscription task =>
    match r.subscriptions.get? subscription with
    | none => (.noSubscription, r)
    | some queue =>
      (.started, ({ r with subscriptions := r.subscriptions.erase subscription }.startNext
        (some task) queue).settle)
  | .task name =>
    let r := r.settle
    match r.names.get? name with
    | none => (.noTask, r)
    | some ticket =>
      match (r.tasks.find? (·.ticket = ticket)).bind QueueTask.result with
      | some result => (.result result, { r with names := r.names.erase name })
      | none => (.waiting, r)
  | .consume queue subscription =>
    match r.broker.consume queue with
    | .ok () => (.ok, { r with subscriptions := r.subscriptions.insert subscription queue })
    | .error e => (.failed e, r)
  | .next subscription =>
    match r.subscriptions.get? subscription with
    | none => (.noSubscription, r)
    | some queue =>
      match (r.startNext none queue).foreground with
      | (some result, r) => (.result result, r)
      | (none, r) => (.empty, r)
  | .pending queue => (.pending (r.broker.pending? queue), r)
  | .close => (.ok, { r with broker := r.broker.close }.settle)
  | .isClosed => (.closed r.broker.closed, r)

end QueueRun

end QueryGateway.Simulation
