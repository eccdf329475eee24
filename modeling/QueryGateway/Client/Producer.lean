import QueryGateway.Client.Error
import QueryGateway.Wire.Ack
import QueryGateway.Wire.Batch
import QueryGateway.Wire.Connection

/-! # Producers

A producer sends the batches of one kind of records on one connection, numbered from zero, and
waits for the acknowledgement of each. A batch that was not acknowledged keeps its number for the
next one.
-/

namespace QueryGateway

/-- A producer's side of a connection. -/
structure Producer where
  entity : Entity
  client : ClientId
  /-- The number of the next batch. -/
  nextBatch : UInt64
  deriving DecidableEq, Repr

namespace Producer

/-- A producer that has sent nothing. -/
def new (entity : Entity) (client : ClientId) : Producer := ⟨entity, client, 0⟩

/-- The header of the producer's next frame. -/
def header (p : Producer) (queries : List QueryId) (marker : Marker) : Header :=
  ⟨queries, p.entity, p.client, marker⟩

/-- The bytes that the header line of any batch for these queries can take. -/
def headerReserve (p : Producer) (queries : List QueryId) : Nat :=
  (p.header queries (.batch (UInt64.ofNat Text.maxWord64))).text.utf8ByteSize

/-- Only batches of the primary kind may feed several queries. -/
def checkQueries (p : Producer) (queries : List QueryId) : Except ClientError Unit :=
  if !p.entity.isPrimary && 1 < queries.length then
    .error (.tooManyQueries p.entity queries.length)
  else .ok ()

/-- Compares a reply with the acknowledgement it should be. -/
def checkAck (expected : Ack) (received : String) : Except ClientError Unit :=
  match Ack.parse received with
  | .ok ack => if ack = expected then .ok () else .error (.ackMismatch expected.text received)
  | .error _ => .error (.ackMismatch expected.text received)

/-- Sends a frame and waits for its acknowledgement. -/
def send (h : Header) (records : List String) : Program Wire (Except ClientError Unit) := do
  match ← Wire.write (Batch.encode h records) with
  | .error e => return .error (.wire e)
  | .ok () =>
    match ← Wire.read with
    | .error e => return .error (.wire e)
    | .ok received => return checkAck (.ofHeader h) received

/-- Sends a batch. The result is its number. -/
def sendBatch (p : Producer) (queries : List QueryId) (records : List String) :
    Program Wire (Except ClientError UInt64 × Producer) :=
  match p.checkQueries queries with
  | .error e => return (.error e, p)
  | .ok () => do
    match ← send (p.header queries (.batch p.nextBatch)) records with
    | .error e => return (.error e, p)
    | .ok () => return (.ok p.nextBatch, { p with nextBatch := p.nextBatch + 1 })

/-- Says that the stream has ended for these queries. -/
def sendEnd (p : Producer) (queries : List QueryId) : Program Wire (Except ClientError Unit) :=
  match p.checkQueries queries with
  | .error e => return .error e
  | .ok () => send (p.header queries .endOfStream) []

end Producer

/-- Waits for a name on a connection to the assignment listener. -/
def receiveClientId : Program Wire (Except ClientError ClientId) := do
  match ← Wire.read with
  | .error e => return .error (.wire e)
  | .ok payload =>
    let id := Text.trim payload
    return if id = "" then .error (.unexpectedFrame id) else .ok ⟨id⟩

end QueryGateway
