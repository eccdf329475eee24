import QueryGateway.Delivery.Announce
import QueryGateway.Simulation.Scene

/-! # Announcements on a virtual clock -/

namespace QueryGateway.Simulation

/-- A client that connects to announce itself. -/
structure Caller where
  actions : List Action
  /-- The client drops the connection after its actions. -/
  hangsUp : Bool
  /-- How long its announcement is waited for. -/
  deadline : Nat
  /-- The gateway is told to stop before the client connects. -/
  stopsFirst : Bool

/-- What a caller sees of its connection at the end. -/
inductive CallerView where
  | open
  | closed
  | hungUp
  deriving DecidableEq, Repr

namespace Scene

/-- Accepts one caller. The result is the name of the client if it was registered. -/
def answer (s : Scene) (c : Caller) : Option ClientId × Scene :=
  let s := { s with stopping := s.stopping || c.stopsFirst }
  let actions := c.actions ++ if c.hangsUp then [.drop] else []
  let (h, s) := s.connect "" (.new s.now actions [] [])
  let s := s.pass 0
  match s.line? h with
  | none => (none, s)
  | some l =>
    let (waited, now, l) := l.await s.now (some (s.now + c.deadline))
    let reading := match waited with
      | .result result => some result
      | _ => none
    match ({ s.modify h fun _ => l with now }).perform (Delivery.accept h reading) with
    | (some (some client), s) => (some client, s)
    | (_, s) => (none, s.modify h fun l => l.drop s.now)

/-- Accepts one caller, then counts the clients. -/
def answerAndCount (s : Scene) (c : Caller) : (Option ClientId × Nat) × Scene :=
  let (client, s) := s.answer c
  ((client, s.registry.size), s)

/-- What a caller sees at the end. -/
def viewOf (s : Scene) (i : Nat) (c : Caller) : CallerView :=
  if c.hangsUp then .hungUp
  else if (s.line? ⟨i⟩).any Line.writable then .open
  else .closed

end Scene

end QueryGateway.Simulation
