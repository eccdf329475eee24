import QueryGateway.Text.Blank
import QueryGateway.Wire.Ack
import QueryGateway.Wire.Connection
import QueryGateway.Wire.ResultFrame

/-! # Links to clients

A link is the connection of a client together with the number of replies the client still owes.
A reply that comes too late is consumed before the next frame is written, so that every reply is
taken for the frame it answers.
-/

namespace QueryGateway

/-- How a client answered a frame. -/
inductive AckOutcome where
  | acked
  | mismatch (reply : String)
  | timedOut
  /-- A reply to an earlier frame is still missing; nothing was written. -/
  | desynchronised
  deriving DecidableEq, Repr

namespace Link

/-- What the reply to a frame means. -/
def judge (reply : String) : AckOutcome :=
  if Text.trim reply = resultAck then .acked else .mismatch reply

/-- Writes a frame and waits for its reply. -/
def exchange (frame : ResultFrame) (timeout : Nat) :
    Program Wire (Except WireError AckOutcome × Nat) := do
  match ← Wire.write frame.text with
  | .error e => return (.error e, 0)
  | .ok () =>
    match ← Wire.readWithin timeout with
    | none => return (.ok .timedOut, 1)
    | some (.error e) => return (.error e, 0)
    | some (.ok reply) => return (.ok (judge reply), 0)

/-- Delivers a frame on a link whose client owes `owed` replies. The result says how the client
answered and how many replies it owes now. -/
def deliver (frame : ResultFrame) (timeout : Nat) :
    (owed : Nat) → Program Wire (Except WireError AckOutcome × Nat)
  | 0 => exchange frame timeout
  | owed + 1 => do
    match ← Wire.readWithin timeout with
    | none => return (.ok .desynchronised, owed + 1)
    | some (.error e) => return (.error e, owed + 1)
    | some (.ok _) => deliver frame timeout owed

end Link

end QueryGateway
