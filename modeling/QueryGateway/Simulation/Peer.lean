import QueryGateway.Wire.Frame

/-! # Scripted peers

A peer is the other side of a connection on a virtual clock. It takes frames one at a time and
performs the actions that its script has for each; while it performs them it takes no other frame.
-/

namespace QueryGateway.Simulation

/-- Milliseconds of virtual time. -/
abbrev Time := Nat

/-- What a peer does. -/
inductive Action where
  | send (bytes : Bytes)
  | wait (milliseconds : Nat)
  /-- Drops the connection. -/
  | drop
  deriving DecidableEq, Repr

/-- Sends a payload as one frame. A payload that fits in no frame ends the peer. -/
def Action.frame (payload : Bytes) : Action :=
  if payload.length ≤ maxFrameLength then .send (frameBytes payload) else .drop

/-- How far a peer has come. -/
inductive Peer.Status where
  | running
  /-- It saw the end of the connection, dropped it, or failed to write. -/
  | ended
  /-- It was stopped from outside. -/
  | hungUp
  deriving DecidableEq, Repr

/-- The other side of a connection. -/
structure Peer where
  status : Peer.Status
  /-- The actions for each frame to come. -/
  replies : List (List Action)
  /-- The actions for every frame after those. -/
  fallback : List Action
  /-- The actions in progress. -/
  todo : List Action
  /-- When the peer has done what it has done so far. -/
  clock : Time
  /-- The frames that have arrived and were not taken yet, and when they did. -/
  inbox : List (Time × String)
  /-- When the end of the connection arrived. -/
  closedAt : Option Time
  /-- The frames taken so far, the last one first. -/
  taken : List String

namespace Peer

/-- A peer that performs `first` unasked and then follows its script. -/
def new (now : Time) (first : List Action) (replies : List (List Action))
    (fallback : List Action) : Peer :=
  ⟨.running, replies, fallback, first, now, [], none, []⟩

/-- The frames that the peer has taken. -/
def log (p : Peer) : List String :=
  p.taken.reverse

/-- When the peer will do the next thing, if it has anything to do. -/
def next? (p : Peer) : Option Time :=
  if p.status ≠ .running then none
  else match p.todo, p.inbox, p.closedAt with
    | .wait ms :: _, _, _ => some (p.clock + ms)
    | _ :: _, _, _ => some p.clock
    | [], (time, _) :: _, _ => some (max p.clock time)
    | [], [], some time => some (max p.clock time)
    | [], [], none => none

/-- Ends the peer. -/
def stop (p : Peer) (status : Status) : Peer :=
  { p with status, todo := [] }

/-- Does the next thing at `time`. The bytes it sends are returned; if nobody listens, sending
fails. -/
def step (p : Peer) (listening : Bool) (time : Time) : Bytes × Peer :=
  let p := { p with clock := time }
  match p.todo, p.inbox with
  | .send bytes :: rest, _ =>
    if listening then (bytes, { p with todo := rest }) else ([], p.stop .ended)
  | .wait _ :: rest, _ => ([], { p with todo := rest })
  | .drop :: _, _ => ([], p.stop .ended)
  | [], (_, frame) :: inbox =>
    ([], { p with
      inbox
      todo := p.replies.head?.getD p.fallback
      replies := p.replies.tail
      taken := frame :: p.taken })
  | [], [] => ([], p.stop .ended)

/-- A bound on the number of things the peer will do. -/
def workload (p : Peer) : Nat :=
  p.todo.length + p.replies.flatten.length + p.inbox.length * (p.fallback.length + 1) + 1

/-- Whether a time is not after a limit; without a limit none is. -/
def within (limit : Option Time) (time : Time) : Bool :=
  limit.all (time ≤ ·)

/-- Does at most `fuel` things, all that are due by the limit. The bytes sent are returned. -/
def runFor (listening : Bool) (limit : Option Time) : (fuel : Nat) → Bytes → Peer → Bytes × Peer
  | 0, sent, p => (sent, p)
  | fuel + 1, sent, p =>
    match p.next? with
    | none => (sent, p)
    | some time =>
      if within limit time then
        let (bytes, p) := p.step listening time
        runFor listening limit fuel (sent ++ bytes) p
      else (sent, p)

/-- Does all that is due by the limit. The bytes sent are returned. -/
def run (p : Peer) (listening : Bool) (limit : Option Time) : Bytes × Peer :=
  runFor listening limit p.workload [] p

/-- A frame arrives. -/
def receive (p : Peer) (now : Time) (frame : String) : Peer :=
  { p with inbox := p.inbox ++ [(now, frame)] }

/-- The end of the connection arrives. -/
def receiveEnd (p : Peer) (now : Time) : Peer :=
  { p with closedAt := p.closedAt.or (some now) }

/-- Stops the peer from outside; what it has not done it will not do. -/
def hangUp (p : Peer) : Peer :=
  if p.status = .running then p.stop .hungUp else p

end Peer

end QueryGateway.Simulation
