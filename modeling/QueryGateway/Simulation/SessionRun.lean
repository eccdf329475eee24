import QueryGateway.Ingest.Session
import QueryGateway.Simulation.Publishing
import QueryGateway.Wire.Connection

/-! # A producer's session on a virtual clock

The session runs whenever the producer waits. It is never interrupted while it handles a frame:
a request to stop and the end of an idle time count only when it turns to the next frame.
-/

namespace QueryGateway.Simulation

/-- What a session is doing. -/
inductive Activity where
  /-- It turns to the next frame. -/
  | turning
  /-- It waits for a frame. -/
  | reading (deadline : Time)
  | pausing (time : Time) (next : Program Ingest Session.Turn)
  /-- It waits for room in a queue. -/
  | publishing (queue : String)
      (next : Except BrokerError Unit → Program Ingest Session.Turn)
  | finished (result : Except SessionError SessionSummary)

/-- What ends a wait of the producer's side early. -/
inductive Watch where
  | nothing
  | reply
  | message (queue : String)
  deriving DecidableEq

/-- A session and its producer. -/
structure SessionRun where
  router : Router
  /-- How long a producer may be idle. -/
  readTimeout : Nat
  now : Time
  /-- The session runs up to this time. -/
  limit : Time
  watch : Watch
  publishing : Publishing
  connection : Connection
  inlet : Inlet
  producerOpen : Bool
  /-- The acknowledgements that the producer has not read. -/
  replies : List String
  cancelled : Bool
  summary : SessionSummary
  activity : Activity

/-- What may happen to a session. -/
inductive SessionStep where
  | send (payload : String)
  | raw (bytes : Bytes)
  | read (limit : Nat)
  | take (queue : String)
  | sleep (milliseconds : Nat)
  | cancel
  | closeBroker
  | close

/-- What a step led to. -/
inductive SessionOutcome where
  /-- Whether the session's side was still there. -/
  | accepted (open? : Bool)
  | frame (payload : String)
  | pending
  | closed
  | message (message : Message)
  | empty
  | ended
  | failed (error : BrokerError)
  | ok

namespace SessionRun

/-- A session that has just begun. -/
def start (router : Router) (readTimeout : Nat) (publishing : Publishing) : SessionRun :=
  ⟨router, readTimeout, 0, 0, .nothing, publishing, .opened, ⟨[], false⟩, true, [], false, .empty,
    .turning⟩

/-- Something happened that the producer's side may watch for. -/
def notice (r : SessionRun) (event : Watch) : SessionRun :=
  if r.watch = event then { r with limit := r.now } else r

/-- The session is over. -/
def finish (r : SessionRun) (result : Except SessionError SessionSummary) : SessionRun :=
  { r with activity := .finished result }.notice .reply

/-- Notes that a message was published. -/
def noticePublish (r : SessionRun) (queue : String) (result : Except BrokerError Unit) :
    SessionRun :=
  if result.isOk then r.notice (.message queue) else r

/-- Writes an acknowledgement. -/
def acknowledge (r : SessionRun) (ack : Ack) : Except WireError Unit × SessionRun :=
  match r.connection.write ack.text r.producerOpen with
  | (.ok _, connection) =>
    (.ok (), { r with connection, replies := r.replies ++ [ack.text] }.notice .reply)
  | (.error e, connection) => (.error e, { r with connection })

/-- Does what a read asks for, up to its end, or to a wait that is not over at the limit. -/
def execute : Program Ingest Session.Turn → SessionRun → SessionRun
  | .done (.again summary), r => { r with summary, activity := .turning }
  | .done (.over result), r => r.finish result
  | .perform (.publish queue m) next, r =>
    match r.publishing.publish queue m with
    | (.ready result, publishing) =>
      execute (next result) ({ r with publishing }.noticePublish queue result)
    | (.waiting, publishing) => { r with publishing, activity := .publishing queue next }
  | .perform (.pause ms) next, r =>
    if r.now + ms ≤ r.limit then execute (next ()) { r with now := r.now + ms }
    else { r with activity := .pausing (r.now + ms) (next ()) }
  | .perform (.acknowledge ack) next, r =>
    let (written, r) := r.acknowledge ack
    execute (next written) r

/-- Goes on after a read. -/
def turn (r : SessionRun) (read : Session.Read) : SessionRun :=
  execute (Session.turn r.router r.summary read) r

/-- Goes on from one wait to the next. Nothing is returned if the wait is not over. -/
def proceed? (r : SessionRun) : Option SessionRun :=
  match r.activity with
  | .finished _ => none
  | .turning =>
    some (if r.cancelled then r.turn none
      else { r with activity := .reading (r.now + r.readTimeout) })
  | .reading deadline =>
    if r.cancelled then some (r.turn none)
    else
      match r.connection.read r.inlet with
      | (some result, connection, inlet) => some ({ r with connection, inlet }.turn (some result))
      | (none, _, _) =>
        if deadline ≤ r.limit then some ({ r with now := deadline }.turn none) else none
  | .pausing time next =>
    if time ≤ r.limit then some (execute next { r with now := max r.now time }) else none
  | .publishing queue next =>
    match r.publishing.broker.pollPublish queue Publishing.ticket with
    | (.ready result, broker) =>
      let r := { r with publishing := { r.publishing with broker } }
      some (execute (next result) (r.noticePublish queue result))
    | (.waiting, _) => none

/-- Goes on at most `fuel` times. -/
def proceed : (fuel : Nat) → SessionRun → SessionRun
  | 0, r => r
  | fuel + 1, r => r.proceed?.elim r (proceed fuel)

/-- A bound on the waits before the session has to wait for its producer: at most three for each
frame that has arrived. -/
def patience (r : SessionRun) : Nat :=
  3 * (r.inlet.waiting.length + r.connection.decoder.size) + 10

/-- Lets time pass, or less of it if what is watched for happens. -/
def pass (r : SessionRun) (milliseconds : Nat) (watch : Watch) : SessionRun :=
  let r := { r with limit := r.now + milliseconds, watch }
  let r := r.proceed r.patience
  { r with now := r.limit }

/-- Lets everything that is due now happen. -/
def settle (r : SessionRun) : SessionRun :=
  r.pass 1 .nothing

/-- The session is over. -/
def isFinished (r : SessionRun) : Bool :=
  match r.activity with
  | .finished _ => true
  | _ => false

/-- Bytes from the producer arrive, if both sides are there. -/
def deliver (r : SessionRun) (bytes : Bytes) : SessionOutcome × SessionRun :=
  if r.producerOpen && !r.isFinished then
    (.accepted true, { r with inlet := { r.inlet with waiting := r.inlet.waiting ++ bytes } })
  else (.accepted false, r)

/-- The next acknowledgement, if there is one. -/
def reply (r : SessionRun) : SessionOutcome × SessionRun :=
  match r.replies with
  | payload :: replies => (.frame payload, { r with replies })
  | [] => (if r.isFinished || !r.producerOpen then .closed else .pending, r)

/-- The first message of a queue, if there is one. -/
def takeMessage (r : SessionRun) (queue : String) : SessionOutcome × SessionRun :=
  match r.publishing.broker.next queue (Publishing.ticket + 1) with
  | (.ready (some m), broker) =>
    (.message m, { r with publishing := { r.publishing with broker } })
  | (.ready none, _) => (.ended, r)
  | (.waiting, _) => (.empty, r)

/-- Performs one step. -/
def step (r : SessionRun) : SessionStep → SessionOutcome × SessionRun
  | .send payload =>
    match encodeFrame payload with
    | .ok bytes => (r.deliver bytes).map id settle
    | .error _ => (.accepted false, r.settle)
  | .raw bytes => (r.deliver bytes).map id settle
  | .read limit =>
    match r.reply with
    | (.pending, r) => (r.pass limit .reply).reply
    | answered => answered
  | .take queue =>
    match r.publishing.broker.consume queue with
    | .error e => (.failed e, r.settle)
    | .ok () =>
      match r.takeMessage queue with
      | (.empty, r) => ((r.pass 10 (.message queue)).takeMessage queue).map id settle
      | taken => taken.map id settle
  | .sleep ms => (.ok, r.pass ms .nothing)
  | .cancel => (.ok, { r with cancelled := true }.settle)
  | .closeBroker =>
    let broker := r.publishing.broker.close
    (.ok, { r with publishing := { r.publishing with broker } }.settle)
  | .close =>
    (.ok, { r with producerOpen := false, inlet := { r.inlet with ended := true } }.settle)

/-- The result of the session once its producer is gone, if it comes to an end within `limit`
milliseconds. -/
def conclude (r : SessionRun) (limit : Nat) :
    Option (Except SessionError SessionSummary) × SessionRun :=
  let r := { r with producerOpen := false, inlet := { r.inlet with ended := true } }
  let r := r.pass limit .nothing
  (match r.activity with
    | .finished result => some result
    | _ => none, r)

end SessionRun

end QueryGateway.Simulation
