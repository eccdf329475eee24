import QueryGateway.Wire.Header

/-! # Acknowledgements

Every frame of a producer is answered by one: `MOVIES_ACK:7` for batch 7 of movies,
`MOVIES_EOF_ACK` for the end of their stream.
-/

namespace QueryGateway

/-- The answer to a producer's frame. -/
structure Ack where
  entity : Entity
  marker : Marker
  deriving DecidableEq, Repr

/-- Why a text is no acknowledgement. -/
inductive AckError where
  | unknownEntity (entity : Entity.Unknown)
  | invalidBatchId (text : String)
  | notAnAck (text : String)
  deriving DecidableEq, Repr

/-- The text of the error. -/
def AckError.message : AckError → String
  | unknownEntity e => e.message
  | invalidBatchId text => "Invalid batch id in ack: " ++ text
  | notAnAck text => "Not an acknowledgement: " ++ text

namespace Ack

/-- The acknowledgement of a header's frame. -/
def ofHeader (h : Header) : Ack :=
  ⟨h.entity, h.marker⟩

/-- The written form. -/
def text (a : Ack) : String :=
  match a.marker with
  | .batch id => a.entity.name ++ "_ACK:" ++ toString id.toNat
  | .endOfStream => a.entity.name ++ "_EOF_ACK"

/-- Reads an acknowledgement, with blanks around it. -/
def parse (s : String) : Except AckError Ack :=
  let s := Text.trim s
  match Text.dropEnding? "_EOF_ACK" s, Text.cutAt "_ACK:" s with
  | some entity, _ => do
    return ⟨← (Entity.parse entity).mapError .unknownEntity, .endOfStream⟩
  | none, some (entity, number) => do
    let entity ← (Entity.parse entity).mapError .unknownEntity
    match batchId? number with
    | some id => return ⟨entity, .batch id⟩
    | none => throw (.invalidBatchId number)
  | none, none => .error (.notAnAck s)

end Ack

/-- The answer of a client to a result frame. -/
def resultAck : String := "RESULT_ACK"

end QueryGateway
