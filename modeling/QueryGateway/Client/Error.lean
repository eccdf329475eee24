import QueryGateway.Entity
import QueryGateway.Text.Quoted
import QueryGateway.Wire.Error

/-! # Failures of a client -/

namespace QueryGateway

/-- Why a client's call failed. -/
inductive ClientError where
  | connect (address : String) (fault : Fault)
  | wire (error : WireError)
  | ackMismatch (expected received : String)
  | recordTooLarge (length limit : Nat)
  | unexpectedFrame (payload : String)
  | tooManyQueries (entity : Entity) (count : Nat)
  deriving DecidableEq, Repr

/-- The text of the error. -/
def ClientError.message : ClientError → String
  | connect address fault => s!"Failed to connect to {address}: {fault.message}"
  | wire error => "Wire error: " ++ error.message
  | ackMismatch expected received =>
    s!"Expected acknowledgement {Text.quote expected}, received {Text.quote received}"
  | recordTooLarge length limit => s!"Record of {length} bytes cannot fit in a frame (limit {limit})"
  | unexpectedFrame payload => "Unexpected frame: " ++ Text.quote payload
  | tooManyQueries entity count => s!"{entity.name} batches feed a single query, got {count}"

end QueryGateway
