import QueryGateway.Wire.Header

/-! # Batches

A batch is a header and the lines after it. Every line that is not blank is a record; carriage
returns at its end do not belong to it.
-/

namespace QueryGateway

/-- The payload of a producer's frame, its header read. -/
structure Batch where
  header : Header
  /-- What follows the first line. -/
  body : String
  deriving DecidableEq, Repr

namespace Batch

/-- Reads the header of a payload. -/
def parse (payload : String) : Except HeaderError Batch := do
  let (first, body) := (Text.cut '\n' payload).getD (payload, "")
  return ⟨← Header.parse first, body⟩

/-- The records of a batch. -/
def records (b : Batch) : List String :=
  ((Text.splitOn '\n' b.body).map (Text.trimEnd (· = '\r'))).filter (!Text.isBlankText ·)

/-- The payload of a header and its records. -/
def encode (header : Header) (records : List String) : String :=
  header.text ++ String.join (records.map ("\n" ++ ·))

end Batch

end QueryGateway
