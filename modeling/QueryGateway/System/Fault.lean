/-! # Faults of the operating system -/

namespace QueryGateway

/-- Why the operating system refused a request. -/
inductive Fault where
  /-- There is no such file. -/
  | notFound
  /-- The bytes of a file are no text. -/
  | notText
  /-- Another program listens on the address. -/
  | addressInUse
  /-- No route leads to the address. -/
  | networkUnreachable
  /-- The other side no longer reads. -/
  | brokenPipe
  /-- Any other reason. -/
  | other (reason : String)
  deriving DecidableEq, Repr

/-- The text of the fault. -/
def Fault.message : Fault → String
  | notFound => "No such file or directory (os error 2)"
  | notText => "stream did not contain valid UTF-8"
  | addressInUse => "Address already in use (os error 98)"
  | networkUnreachable => "Network is unreachable (os error 101)"
  | brokenPipe => "broken pipe"
  | other reason => reason

end QueryGateway
