import QueryGateway.Client.Error
import QueryGateway.Wire.Frame

/-! # Grouping records into batches

A batcher holds records back until the next one does not fit, by count or by bytes. The bytes of a
batch leave room for a header line, so that a batch always fits into a frame.
-/

namespace QueryGateway

/-- Records that wait to be sent. -/
structure Batcher where
  /-- The most records of a batch. -/
  maxRecords : Nat
  /-- The most bytes of the records of a batch, each with its line break. -/
  maxBytes : Nat
  pending : List String
  /-- The bytes of the pending records. -/
  bytes : Nat
  deriving DecidableEq, Repr

namespace Batcher

/-- A batcher without records, with `headerReserve` bytes kept free in each frame. -/
def new (maxRecords headerReserve : Nat) : Batcher :=
  ⟨max maxRecords 1, maxFrameLength - headerReserve, [], 0⟩

/-- The bytes that a record takes in a frame. -/
def cost (record : String) : Nat :=
  record.utf8ByteSize + 1

/-- Takes the pending records, if there are any. -/
def finish (b : Batcher) : Option (List String) × Batcher :=
  if b.pending = [] then (none, b) else (some b.pending, { b with pending := [], bytes := 0 })

/-- A record of this cost does not fit to the pending ones. -/
def isFullFor (b : Batcher) (cost : Nat) : Bool :=
  b.maxRecords ≤ b.pending.length || b.maxBytes < b.bytes + cost

/-- Adds a record. The pending batch is returned if the record does not fit to it. A record that
fits in no batch is refused. -/
def push (b : Batcher) (record : String) : Except ClientError (Option (List String)) × Batcher :=
  let cost := cost record
  if b.maxBytes < cost then
    (.error (.recordTooLarge record.utf8ByteSize (b.maxBytes - 1)), b)
  else
    let (flushed, b) := if b.isFullFor cost then b.finish else (none, b)
    (.ok flushed, { b with pending := b.pending ++ [record], bytes := b.bytes + cost })

end Batcher

end QueryGateway
