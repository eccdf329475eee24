import QueryGateway.Delivery.Announce
import QueryGateway.Delivery.Consumer
import QueryGateway.Queue.Broker
import QueryGateway.Simulation.RegistryRun

/-! # The delivery side on a virtual clock

Messages are handled one by one on demand, or by a loop that takes them from the results queue.
The loop holds the link of a client while it delivers; whoever wants to close that connection
waits until it is done.
-/

namespace QueryGateway.Simulation

/-- A peer of the delivery side. Past the end of its script it acknowledges every frame. -/
structure PeerScript where
  first : List Action
  replies : List (List Action)

/-- Opens a line to a peer and registers it under its name. The result says whether the client had
another connection. -/
def Scene.welcome (s : Scene) (client : String) (script : PeerScript) : Bool × Scene :=
  let (h, s) := s.connect client (.new s.now script.first script.replies acknowledgement)
  match s.perform (Delivery.register ⟨client⟩ h) with
  | (some old, s) => (old.isSome, s)
  | (none, s) => (false, s)

/-- A consumer and the connections of its clients. -/
structure ConsumerRun where
  consumer : Consumer
  counts : Countdown
  scene : Scene

/-- What may happen to a consumer. -/
inductive ConsumerStep where
  | connect (client : String) (script : PeerScript)
  | process (message : Message)
  | remaining (client : ClientId) (query : QueryId)
  | forget (client : ClientId) (query : QueryId)
  | hangUp (client : String)
  | disconnect (client : ClientId)
  | sleep (milliseconds : Nat)

/-- What a step led to. -/
inductive ConsumerOutcome where
  | ok
  | connected (displaced : Bool)
  | processed (outcome : DeliveryOutcome)
  | remaining (count : Option Nat)
  | unknown
  | disconnected (found : Bool)
  /-- The consumer waits for ever. -/
  | stuck

namespace ConsumerRun

/-- A consumer without clients. -/
def new (consumer : Consumer) : ConsumerRun := ⟨consumer, .empty, .empty⟩

/-- Performs one step, apart from what happens after it. -/
def act (r : ConsumerRun) : ConsumerStep → ConsumerOutcome × ConsumerRun
  | .connect client script =>
    let (displaced, scene) := r.scene.welcome client script
    (.connected displaced, { r with scene })
  | .process m =>
    match r.scene.perform (r.consumer.process r.counts m) with
    | (some (outcome, counts), scene) => (.processed outcome, { r with counts, scene })
    | (none, scene) => (.stuck, { r with scene })
  | .remaining client query => (.remaining (r.counts.remaining? client query), r)
  | .forget client query =>
    (.remaining (r.counts.remaining? client query),
      { r with counts := r.counts.forget client query })
  | .hangUp client =>
    match r.scene.find? client with
    | some h => (.ok, { r with scene := r.scene.modify h Line.hangUp })
    | none => (.unknown, r)
  | .disconnect client =>
    let (handle, scene) := r.scene.remove client
    (.disconnected handle.isSome, { r with scene })
  | .sleep ms => (.ok, { r with scene := r.scene.pass ms })

/-- Performs one step and lets everything that is due then happen. -/
def step (r : ConsumerRun) (s : ConsumerStep) : ConsumerOutcome × ConsumerRun :=
  let (outcome, r) := r.act s
  (outcome, { r with scene := r.scene.settle })

/-- Closes all connections. The result is how many there were. -/
def closeAll (r : ConsumerRun) : Nat × ConsumerRun :=
  let (count, scene) := r.scene.perform Delivery.closeAll
  (count.getD 0, { r with scene := scene.settle })

end ConsumerRun

/-- What the loop over the results queue is doing. -/
inductive LoopActivity where
  | notStarted
  /-- It turns to the next message. -/
  | turning
  /-- It delivers on a link until a time, and then goes on with the answer. -/
  | delivering (handle : Handle) (time : Time) (answer : Except WireError AckOutcome)
      (next : Except WireError AckOutcome → Program Delivery (DeliveryOutcome × Countdown))
  | finished

/-- The loop over the results queue, and what is around it. -/
structure LoopRun where
  run : ConsumerRun
  broker : Broker
  /-- The name of the results queue. -/
  queue : String
  /-- The loop was asked to stop. -/
  cancelled : Bool
  /-- How many messages the loop has handled. -/
  processed : Nat
  activity : LoopActivity

/-- What may happen around the loop. -/
inductive LoopStep where
  | connect (client : String) (script : PeerScript)
  | publish (message : Message)
  | start
  | cancel
  | close
  | pending
  | sleep (milliseconds : Nat)

/-- What a step led to. -/
inductive LoopOutcome where
  | ok
  | connected (displaced : Bool)
  | published (result : Except BrokerError Unit)
  | full
  | pending (count : Option Nat)

namespace LoopRun

/-- The loop before it starts. -/
def new (consumer : Consumer) (queue : String) (capacity : Nat) : LoopRun :=
  let broker := Broker.new capacity
  ⟨.new consumer, (broker.declare queue).toOption.getD broker, queue, false, 0, .notStarted⟩

/-- Handles a message up to its end, or to a delivery that takes time. -/
def execute : Program Delivery (DeliveryOutcome × Countdown) → LoopRun → LoopRun
  | .done (_, counts), r =>
    { r with run := { r.run with counts }, processed := r.processed + 1, activity := .turning }
  | .perform (.deliver h frame timeout) next, r =>
    let (answer, time, scene) := r.run.scene.deliver h frame timeout
    let r := { r with run := { r.run with scene } }
    if time = scene.now then execute (next answer) r
    else { r with activity := .delivering h time answer next }
  | .perform request next, r =>
    match Scene.handle request r.run.scene with
    | (some answer, scene) => execute (next answer) { r with run := { r.run with scene } }
    | (none, scene) => { r with run := { r.run with scene }, activity := .finished }

/-- Sets the clock. -/
def setClock (r : LoopRun) (now : Time) : LoopRun :=
  { r with run := { r.run with scene := { r.run.scene with now } } }

/-- Goes on from one wait to the next, if that is possible by `limit`. -/
def proceed? (limit : Time) (r : LoopRun) : Option LoopRun :=
  match r.activity with
  | .notStarted | .finished => none
  | .turning =>
    if r.cancelled || r.broker.closed then some { r with activity := .finished }
    else match (r.broker.next r.queue 0) with
      | (.ready (some m), broker) =>
        some (execute (r.run.consumer.process r.run.counts m) { r with broker })
      | _ => none
  | .delivering _ time answer next =>
    if time ≤ limit then some (execute (next answer) (r.setClock (max time r.run.scene.now))) else none

/-- Goes on at most `fuel` times. -/
def proceed (limit : Time) : (fuel : Nat) → LoopRun → LoopRun
  | 0, r => r
  | fuel + 1, r => (r.proceed? limit).elim r (proceed limit fuel)

/-- Lets time pass. The loop turns to each message once and waits at most once in between. -/
def pass (r : LoopRun) (milliseconds : Nat) : LoopRun :=
  let start := r.run.scene.now
  let limit := start + milliseconds
  let r := r.proceed limit (2 * (r.broker.messages r.queue).length + 3)
  let r := r.setClock limit
  { r with run := { r.run with scene := r.run.scene.pass 0 } }

/-- How long the loop holds the link of a handle. -/
def heldFor (r : LoopRun) (h : Handle) : Nat :=
  match r.activity with
  | .delivering held time _ _ => if held = h then time - r.run.scene.now else 0
  | _ => 0

/-- Registers a new peer. The connection that the client had before is closed as soon as the loop
does not hold its link. -/
def connect (r : LoopRun) (client : String) (script : PeerScript) : Bool × LoopRun :=
  let scene := r.run.scene
  let peer := .new scene.now script.first script.replies acknowledgement
  let (h, scene) := scene.connect client peer
  let (old, registry) := scene.registry.insert ⟨client⟩ h
  let r := { r with run := { r.run with scene := { scene with registry } } }
  match old with
  | none => (false, r)
  | some old =>
    let wait := r.heldFor old
    let r := if wait = 0 then r else r.pass wait
    (true, { r with run := { r.run with scene := (r.run.scene.perform (Delivery.close old)).2 } })

/-- Performs one step. Only starting and sleeping let time pass. -/
def step (r : LoopRun) : LoopStep → LoopOutcome × LoopRun
  | .connect client script =>
    let (displaced, r) := r.connect client script
    (.connected displaced, r)
  | .publish m =>
    match r.broker.publish r.queue 1 m with
    | (.ready result, broker) => (.published result, { r with broker })
    | (.waiting, _) => (.full, r)
  | .start =>
    match r.activity with
    | .notStarted => (.ok, { r with activity := .turning }.pass 1)
    | _ => (.ok, r.pass 1)
  | .cancel => (.ok, { r with cancelled := true })
  | .close => (.ok, { r with broker := r.broker.close })
  | .pending => (.pending (r.broker.pending? r.queue), r)
  | .sleep ms => (.ok, r.pass ms)

/-- How the loop came out. -/
inductive Verdict where
  | notStarted
  | running
  | processed (count : Nat)

/-- Waits at most `limit` milliseconds for the loop to end. -/
def conclude (r : LoopRun) (limit : Nat) : Verdict × LoopRun :=
  match r.activity with
  | .notStarted => (.notStarted, r)
  | _ =>
    let r := r.pass limit
    match r.activity with
    | .finished => (.processed r.processed, r)
    | _ => (.running, r)

end LoopRun

end QueryGateway.Simulation
