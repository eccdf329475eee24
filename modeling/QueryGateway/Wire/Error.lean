import QueryGateway.System.Fault

/-! # Failures of a framed connection -/

namespace QueryGateway

/-- Why reading or writing a frame failed. -/
inductive WireError where
  /-- The other side ended the connection between two frames. -/
  | closed
  /-- The other side ended the connection inside a frame. -/
  | truncated (remaining : Nat)
  /-- The payload has more bytes than a frame can hold. -/
  | frameTooLarge (length limit : Nat)
  /-- The payload is no text. -/
  | invalidUtf8
  /-- The system failed to move the bytes. -/
  | io (fault : Fault)
  deriving DecidableEq, Repr

namespace WireError

/-- The text of the error. -/
def message : WireError → String
  | closed => "Connection closed"
  | truncated remaining => s!"Connection closed mid-frame ({remaining} bytes buffered)"
  | frameTooLarge length limit => s!"Frame of {length} bytes exceeds the {limit} byte limit"
  | invalidUtf8 => "Frame payload is not valid UTF-8"
  | io fault => "IO error: " ++ fault.message

/-- The other side sends nothing more. -/
def endsStream : WireError → Bool
  | closed | truncated _ => true
  | _ => false

/-- The connection is of no further use. A frame that cannot be encoded or decoded leaves the
connection intact. -/
def losesConnection : WireError → Bool
  | io _ => true
  | e => e.endsStream

end WireError

end QueryGateway
