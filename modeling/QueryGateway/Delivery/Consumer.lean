import QueryGateway.Delivery.Countdown
import QueryGateway.Delivery.Registry
import QueryGateway.Queue.Message
import QueryGateway.Routing.Multiplicity

/-! # Delivering results

Messages of the results queue are handled one after the other. Rows go to their client at once; an
end-of-stream message is counted, and the last one awaited is passed on. A client whose connection
failed, or that still owes a reply, is taken out; a frame that cannot be encoded or a reply that
is no text costs the client only that frame.
-/

namespace QueryGateway

/-- What a message of the results queue led to. -/
inductive DeliveryOutcome where
  | delivered
  | ackMismatch (reply : String)
  | ackTimedOut
  /-- An end-of-stream message was counted and more are awaited. -/
  | awaiting (remaining : Nat)
  | noClient
  | disconnected
  | desynchronised
  | undeliverable (error : WireError)
  | malformed (error : MessageError)
  deriving DecidableEq, Repr

/-- A frame was written on the client's connection. -/
def DeliveryOutcome.forwarded : DeliveryOutcome → Bool
  | delivered | ackMismatch _ | ackTimedOut => true
  | _ => false

/-- Handles the messages of the results queue. -/
structure Consumer where
  multiplicity : Multiplicity
  /-- How long a reply is waited for, in milliseconds. -/
  ackTimeout : Nat

namespace Consumer

/-- The frame that a message is passed on as, or why there is none, and the counts after it. -/
def frameOf (c : Consumer) (counts : Countdown) (m : Message) :
    Except DeliveryOutcome (ClientId × ResultFrame) × Countdown :=
  match m.resultMeta with
  | .error e => (.error (.malformed e), counts)
  | .ok info =>
    match info.kind with
    | .endOfStream =>
      match counts.observe info.client info.query (c.multiplicity.resultCount info.query) with
      | (.pending remaining, counts) => (.error (.awaiting remaining), counts)
      | (.complete, counts) => (.ok (info.client, ⟨info.query, .endOfStream⟩), counts)
    | .rows =>
      match m.bodyText with
      | .ok rows => (.ok (info.client, ⟨info.query, .rows rows⟩), counts)
      | .error e => (.error (.malformed e), counts)

/-- Delivers a frame to its client. -/
def deliver (c : Consumer) (client : ClientId) (frame : ResultFrame) :
    Program Delivery DeliveryOutcome := do
  match ← Delivery.lookup client with
  | none => return .noClient
  | some handle =>
    match ← Delivery.deliver handle frame c.ackTimeout with
    | .ok .acked => return .delivered
    | .ok (.mismatch reply) => return .ackMismatch reply
    | .ok .timedOut => return .ackTimedOut
    | .ok .desynchronised =>
      if ← Delivery.removeIfCurrent client handle then
        Delivery.close handle
      return .desynchronised
    | .error e =>
      if e.losesConnection then
        let _ ← Delivery.removeIfCurrent client handle
        return .disconnected
      else return .undeliverable e

/-- Handles one message. -/
def process (c : Consumer) (counts : Countdown) (m : Message) :
    Program Delivery (DeliveryOutcome × Countdown) :=
  match c.frameOf counts m with
  | (.error outcome, counts) => return (outcome, counts)
  | (.ok (client, frame), counts) => return (← c.deliver client frame, counts)

end Consumer

end QueryGateway
