import Mathlib.Logic.Relation
import QueryGateway.Proofs.Reception.Tasks

/-! # Connections that come and go while the gateway stops

Any number of result connections announce themselves, some of them for one client, while messages
are delivered and the gateway is told to stop. Every task does its requests one by one, and whose
request is next is left open. When the gateway has been told to stop and the delivery side has come to rest,
all connections are closed.
-/

namespace QueryGateway

/-- Result connections that come to the gateway. -/
structure Arrivals (n : Nat) where
  /-- Every connection has a handle of its own. -/
  handle : Fin n → Handle
  injective : Function.Injective handle
  /-- What is read on each connection in the time that it has to announce itself. -/
  read : Fin n → Option (Except WireError String)

/-- Who makes a request. -/
inductive Party (n : Nat) where
  | arrival (i : Fin n)
  /-- The delivery side with one of the messages, which are numbered. -/
  | message (k : Nat)
  | shutdown
  deriving DecidableEq

/-- The result that a task comes to. -/
def Party.Result {n : Nat} : Party n → Type
  | .arrival _ => Option ClientId
  | .message _ => DeliveryOutcome × Countdown
  | .shutdown => Nat

/-- The programs that a task may run. -/
inductive Party.Runs {n : Nat} (a : Arrivals n) (c : Consumer) :
    (party : Party n) → Program Delivery party.Result → Prop where
  | arrival (i : Fin n) : Runs a c (.arrival i) (Delivery.accept (a.handle i) (a.read i))
  | message (k : Nat) (counts : Countdown) (m : Message) :
      Runs a c (.message k) (c.process counts m)
  | shutdown : Runs a c .shutdown Delivery.closeAll

/-- What one of the tasks asked. -/
def Party.logIn {n : Nat} (party : Party n) (log : List (Party n × Exchange Delivery)) :
    List (Exchange Delivery) :=
  log.filterMap fun entry => if entry.1 = party then some entry.2 else none

/-- The tasks and the registry at a moment. -/
structure Reception (n : Nat) where
  registry : Registry
  /-- The gateway has been told to stop. -/
  stopping : Bool
  /-- What each task that has begun has still to do. -/
  task : (party : Party n) → Option (Program Delivery party.Result)
  /-- How many messages have been handled. -/
  handled : Nat
  counts : Countdown
  /-- The delivery side takes no more messages. -/
  resting : Bool
  /-- What was asked by whom, and how it was answered. -/
  log : List (Party n × Exchange Delivery)

namespace Reception

variable {n : Nat}

/-- All connections have come, and nobody has asked for anything. -/
def start (a : Arrivals n) : Reception n where
  registry := .empty
  stopping := false
  task
    | .arrival i => some (Delivery.accept (a.handle i) (a.read i))
    | .message _ => none
    | .shutdown => none
  handled := 0
  counts := .empty
  resting := false
  log := []

/-- How a request is answered. What comes of a delivery is up to the connection. -/
inductive Answers (s : Reception n) : Exchange Delivery → Prop where
  | lookup (client : ClientId) : Answers s ⟨.lookup client, s.registry.get? client⟩
  | insert (client : ClientId) (handle : Handle) :
      Answers s ⟨.insert client handle, (s.registry.insert client handle).1⟩
  | removeIfCurrent (client : ClientId) (handle : Handle) :
      Answers s ⟨.removeIfCurrent client handle, (s.registry.removeIfCurrent client handle).1⟩
  | drain {handles : List Handle} : handles.Perm s.registry.drain.1 →
      Answers s ⟨.drain, handles⟩
  | deliver (handle : Handle) (frame : ResultFrame) (timeout : Nat)
      (reply : Except WireError AckOutcome) : Answers s ⟨.deliver handle frame timeout, reply⟩
  | close (handle : Handle) : Answers s ⟨.close handle, ()⟩
  | stopping : Answers s ⟨.stopping, s.stopping⟩

/-- A task has come to another point. -/
def set (s : Reception n) (party : Party n) (p : Program Delivery party.Result) : Reception n :=
  { s with task := Function.update s.task party (some p) }

/-- A task has had a request answered. -/
def perform (s : Reception n) (party : Party n) (e : Exchange Delivery)
    (p : Program Delivery party.Result) : Reception n :=
  { s.set party p with
    registry := s.registry.after e.request
    log := s.log ++ [(party, e)] }

/-- What happens next. -/
inductive Step (c : Consumer) : Reception n → Reception n → Prop where
  | perform {s : Reception n} {party : Party n} {request : Delivery.Request}
      {next : Interface.Answer Delivery request → Program Delivery party.Result}
      {answer : Interface.Answer Delivery request} :
      s.task party = some (.perform (I := Delivery) request next) →
      s.Answers ⟨request, answer⟩ →
      Step c s (s.perform party ⟨request, answer⟩ (next answer))
  /-- The delivery side takes a message. -/
  | take {s : Reception n} (m : Message) : s.resting = false →
      s.task (.message s.handled) = none →
      Step c s (s.set (.message s.handled) (c.process s.counts m))
  | finish {s : Reception n} {outcome : DeliveryOutcome} {counts : Countdown} :
      s.task (.message s.handled) = some (.done (outcome, counts)) →
      Step c s { s with handled := s.handled + 1, counts }
  /-- The delivery side stops between two messages. -/
  | rest {s : Reception n} : s.task (.message s.handled) = none →
      Step c s { s with resting := true }
  | cancel {s : Reception n} : Step c s { s with stopping := true }
  | shutdown {s : Reception n} : s.stopping = true → s.resting = true → s.task .shutdown = none →
      Step c s (s.set .shutdown Delivery.closeAll)

/-- What can come of some arrivals. -/
def Reachable (a : Arrivals n) (c : Consumer) (s : Reception n) : Prop :=
  Relation.ReflTransGen (Step c) (start a) s

/-- Everything that was asked, and how it was answered. -/
def exchanges (s : Reception n) : List (Exchange Delivery) :=
  s.log.map Prod.snd

/-- What one of the tasks asked. -/
def logOf (s : Reception n) (party : Party n) : List (Exchange Delivery) :=
  party.logIn s.log

/-- A task has come to its end. -/
def Done (s : Reception n) (party : Party n) : Prop :=
  ∃ result, s.task party = some (.done result)

/-! ## Runs that are told what comes next -/

/-- What is to come next. -/
inductive Move (n : Nat) where
  /-- A task makes its next request; if this is a delivery, then this comes of it. -/
  | perform (party : Party n) (reply : Except WireError AckOutcome)
  | take (m : Message)
  | finish
  | rest
  | cancel
  | shutdown

variable {c : Consumer} {s s' : Reception n}

/-- The answer to a request. -/
def answer (s : Reception n) (reply : Except WireError AckOutcome) :
    (request : Interface.Request Delivery) → Interface.Answer Delivery request
  | .lookup client => s.registry.get? client
  | .insert client handle => (s.registry.insert client handle).1
  | .removeIfCurrent client handle => (s.registry.removeIfCurrent client handle).1
  | .drain => s.registry.drain.1
  | .deliver _ _ _ => reply
  | .close _ => ()
  | .stopping => s.stopping

theorem answers_answer (s : Reception n) (reply : Except WireError AckOutcome)
    (request : Delivery.Request) : s.Answers ⟨request, s.answer reply request⟩ := by
  cases request with
  | lookup client => exact .lookup client
  | insert client handle => exact .insert client handle
  | removeIfCurrent client handle => exact .removeIfCurrent client handle
  | drain => exact .drain (.refl _)
  | deliver handle frame timeout => exact .deliver handle frame timeout reply
  | close handle => exact .close handle
  | stopping => exact .stopping

/-- Does what is to come next, if it is possible. -/
def move (c : Consumer) (s : Reception n) : Move n → Option (Reception n)
  | .perform party reply =>
    match s.task party with
    | some (.perform request next) =>
      let answer := s.answer reply request
      some (s.perform party ⟨request, answer⟩ (next answer))
    | some (.done _) | none => none
  | .take m =>
    match s.resting, s.task (.message s.handled) with
    | false, none => some (s.set (.message s.handled) (c.process s.counts m))
    | _, _ => none
  | .finish =>
    match s.task (.message s.handled) with
    | some (.done (_, counts)) => some { s with handled := s.handled + 1, counts }
    | some (.perform _ _) | none => none
  | .rest =>
    match s.task (.message s.handled) with
    | none => some { s with resting := true }
    | some _ => none
  | .cancel => some { s with stopping := true }
  | .shutdown =>
    match s.stopping, s.resting, s.task .shutdown with
    | true, true, none => some (s.set .shutdown Delivery.closeAll)
    | _, _, _ => none

theorem step_of_move {m : Move n} (h : s.move c m = some s') : Step c s s' := by
  cases m with
  | perform party reply =>
      simp only [move] at h
      split at h
      · next request next htask =>
          cases h
          exact .perform htask (s.answers_answer reply request)
      · cases h
      · cases h
  | take m =>
      simp only [move] at h
      split at h
      · next hresting hnone =>
          cases h
          exact .take m hresting hnone
      · cases h
  | finish =>
      simp only [move] at h
      split at h
      · next htask =>
          cases h
          exact .finish htask
      · cases h
      · cases h
  | rest =>
      simp only [move] at h
      split at h
      · next hnone =>
          cases h
          exact .rest hnone
      · cases h
  | cancel =>
      cases h
      exact .cancel
  | shutdown =>
      simp only [move] at h
      split at h
      · next hstopping hresting hnone =>
          cases h
          exact .shutdown hstopping hresting hnone
      · cases h

/-- Does one thing after the other, and leaves out what is not possible. -/
def run (c : Consumer) (s : Reception n) (moves : List (Move n)) : Reception n :=
  moves.foldl (fun s m => (s.move c m).getD s) s

theorem reachable_run {a : Arrivals n} (h : Reachable a c s) (moves : List (Move n)) :
    Reachable a c (s.run c moves) := by
  induction moves generalizing s with
  | nil => exact h
  | cons m rest ih =>
      apply ih
      change Reachable a c ((s.move c m).getD s)
      cases hmove : s.move c m with
      | none => exact h
      | some s' => exact h.tail (step_of_move hmove)

end Reception

/-- The handle that was registered last for a client. -/
def Delivery.latest? (client : ClientId) (log : List (Exchange Delivery)) : Option Handle :=
  (((insertions log).filter (·.1 = client)).getLast?).map Prod.snd

/-- The registry after some requests, if nobody was registered before. -/
def Registry.replay (log : List (Exchange Delivery)) : Registry :=
  log.foldl (fun r e => r.after e.request) .empty

end QueryGateway
