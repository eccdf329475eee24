import QueryGateway.Wire.Connection

/-! # A connection over a pipe

One end of a pipe is a framed connection; the other end sends and takes bytes as they are.
-/

namespace QueryGateway.Simulation

/-- A framed connection and the other end of its pipe. -/
structure Pipe where
  connection : Connection
  inlet : Inlet
  /-- The bytes that the other end has not taken. -/
  outgoing : Bytes
  /-- This side may still write. -/
  writable : Bool
  /-- The other end is there. -/
  peerOpen : Bool

/-- What may happen on a pipe. -/
inductive PipeStep where
  | read
  | write (payload : String)
  | shutdown
  | peerSend (bytes : Bytes)
  | peerClose
  | peerRead

/-- What a step led to. -/
inductive PipeOutcome where
  | frame (payload : String)
  | pending
  | failed (error : WireError)
  | done
  /-- Whether the other end could still send. -/
  | accepted (open? : Bool)
  /-- What the other end got, and whether nothing more will come. -/
  | taken (bytes : Bytes) (ended : Bool)

namespace Pipe

/-- A new pipe. -/
def new : Pipe := ⟨.opened, ⟨[], false⟩, [], true, true⟩

/-- Performs one step. -/
def step (p : Pipe) : PipeStep → PipeOutcome × Pipe
  | .read =>
    let (result, connection, inlet) := p.connection.read p.inlet
    let outcome := match result with
      | none => .pending
      | some (.ok payload) => .frame payload
      | some (.error e) => .failed e
    (outcome, { p with connection, inlet })
  | .write payload =>
    match p.connection.write payload (p.writable && p.peerOpen) with
    | (.ok bytes, connection) =>
      (.done, { p with connection, outgoing := p.outgoing ++ bytes })
    | (.error e, connection) => (.failed e, { p with connection })
  | .shutdown => (.done, { p with writable := false })
  | .peerSend bytes =>
    if p.peerOpen then
      (.accepted true, { p with inlet := { p.inlet with waiting := p.inlet.waiting ++ bytes } })
    else (.accepted false, p)
  | .peerClose =>
    (.done, { p with peerOpen := false, inlet := { p.inlet with ended := true } })
  | .peerRead =>
    if p.peerOpen then (.taken p.outgoing (!p.writable), { p with outgoing := [] })
    else (.taken [] true, p)

end Pipe

end QueryGateway.Simulation
