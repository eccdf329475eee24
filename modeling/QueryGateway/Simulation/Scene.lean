import QueryGateway.Delivery.Registry
import QueryGateway.Simulation.Line

/-! # Scenes

A scene has the registry of clients, the lines to their peers, and a clock that all of them share.
A handle is the place of its line among the lines.
-/

namespace QueryGateway.Simulation

/-- Result connections on a virtual clock. -/
structure Scene where
  now : Time
  /-- Every line with the name of its peer, in the order in which they were opened. -/
  lines : List (String × Line)
  registry : Registry
  /-- The gateway is stopping. -/
  stopping : Bool

/-- How the peer of a line ended up. -/
structure PeerReport where
  name : String
  frames : List String
  ended : Bool
  deriving DecidableEq, Repr

/-- What a peer has seen. -/
def Peer.report (p : Peer) (name : String) : PeerReport :=
  ⟨name, p.log, p.status = .ended⟩

namespace Scene

/-- A scene without connections. -/
def empty : Scene := ⟨0, [], .empty, false⟩

/-- The line of a handle. -/
def line? (s : Scene) (h : Handle) : Option Line :=
  s.lines[h.id]?.map Prod.snd

/-- Changes the line of a handle. -/
def modify (s : Scene) (h : Handle) (change : Line → Line) : Scene :=
  { s with lines := s.lines.modify h.id fun (name, l) => (name, change l) }

/-- Opens a line to a new peer. -/
def connect (s : Scene) (name : String) (peer : Peer) : Handle × Scene :=
  (⟨s.lines.length⟩, { s with lines := s.lines ++ [(name, .new peer)] })

/-- Lets time pass; all peers do what is due. -/
def pass (s : Scene) (milliseconds : Nat) : Scene :=
  let now := s.now + milliseconds
  { s with now, lines := s.lines.map fun (name, l) => (name, l.advance (some now)) }

/-- Lets everything that is due now happen. -/
def settle (s : Scene) : Scene :=
  s.pass 1

/-- The latest line to a peer of this name. -/
def find? (s : Scene) (name : String) : Option Handle :=
  (s.lines.zipIdx.reverse.find? fun ((n, _), _) => n = name).map fun (_, i) => ⟨i⟩

/-- The name of the peer at the other end of a handle's line. -/
def nameOf (s : Scene) (h : Handle) : String :=
  (s.lines[h.id]?.map Prod.fst).getD ""

/-- Delivers a frame on a line. The time at which that is done is returned too. -/
def deliver (s : Scene) (h : Handle) (frame : ResultFrame) (timeout : Nat) :
    Except WireError AckOutcome × Time × Scene :=
  match s.line? h with
  | none => (.error .closed, s.now, s)
  | some l =>
    match (Link.deliver frame timeout l.owed).run Line.handle (s.now, l) with
    | (some (outcome, owed), time, l) => (outcome, time, s.modify h fun _ => { l with owed })
    | (none, time, l) => (.error .closed, time, s.modify h fun _ => l)

/-- Answers the requests of the delivery side. -/
def handle : Program.Handler Delivery Scene
  | .lookup client, s => (some (s.registry.get? client), s)
  | .insert client h, s =>
    let (old, registry) := s.registry.insert client h
    (some old, { s with registry })
  | .removeIfCurrent client h, s =>
    let (removed, registry) := s.registry.removeIfCurrent client h
    (some removed, { s with registry })
  | .drain, s =>
    let (handles, registry) := s.registry.drain
    (some handles, { s with registry })
  | .deliver h frame timeout, s =>
    let (outcome, now, s) := s.deliver h frame timeout
    (some outcome, { s with now })
  | .close h, s => (some (), s.modify h fun l => l.shutdown s.now)
  | .stopping, s => (some s.stopping, s)

/-- Runs a program of the delivery side to its end. -/
def perform (s : Scene) (p : Program Delivery α) : Option α × Scene :=
  p.run handle s

/-- Takes a client out. -/
def remove (s : Scene) (client : ClientId) : Option Handle × Scene :=
  let (handle, registry) := s.registry.remove client
  (handle, { s with registry })

/-- What the peers have seen. -/
def reports (s : Scene) : List PeerReport :=
  s.lines.map fun (name, l) => l.peer.report name

end Scene

end QueryGateway.Simulation
