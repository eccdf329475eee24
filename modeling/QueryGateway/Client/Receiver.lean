import QueryGateway.Client.Error
import QueryGateway.Wire.Ack
import QueryGateway.Wire.Announcement
import QueryGateway.Wire.Connection
import QueryGateway.Wire.ResultFrame

/-! # Receivers of results

A receiver announces its client and then takes result frames, acknowledging each, until every
query it waits for has ended.
-/

namespace QueryGateway

/-- A receiver's side of a connection. -/
structure Receiver where
  /-- The queries that have not ended. -/
  awaiting : List QueryId
  deriving DecidableEq, Repr

namespace Receiver

/-- Announces the client. -/
def announce (client : ClientId) (queries : List QueryId) :
    Program Wire (Except ClientError Receiver) := do
  match ← Wire.write (Announcement.text ⟨client⟩) with
  | .error e => return .error (.wire e)
  | .ok () => return .ok ⟨queries⟩

/-- The receiver after a frame. -/
def observe (r : Receiver) (frame : ResultFrame) : Receiver :=
  if frame.endsStream then ⟨r.awaiting.filter (· ≠ frame.query)⟩ else r

/-- Takes and acknowledges the next frame. There is none once every query has ended. -/
def next (r : Receiver) : Program Wire (Except ClientError (Option ResultFrame) × Receiver) := do
  if r.awaiting = [] then
    return (.ok none, r)
  match ← Wire.read with
  | .error e => return (.error (.wire e), r)
  | .ok payload =>
    match ResultFrame.parse? payload with
    | none => return (.error (.unexpectedFrame payload), r)
    | some frame =>
      match ← Wire.write resultAck with
      | .error e => return (.error (.wire e), r)
      | .ok () => return (.ok (some frame), r.observe frame)

end Receiver

end QueryGateway
