import QueryGateway.System.Fault

/-! # Requests to the system

A request that the system refuses has a fault as its result.
-/

namespace QueryGateway

/-- The fault that the system reports. -/
def Fault.ofReport : IO.Error → Fault
  | .noFileOrDirectory .. => .notFound
  | .resourceBusy .. => .addressInUse
  | report => .other (toString report)

/-- Performs a request. -/
def Fault.catching (request : IO α) : IO (Except Fault α) := do
  try
    return .ok (← request)
  catch report =>
    return .error (.ofReport report)

end QueryGateway
