import QueryGateway.Delivery.Registry
import QueryGateway.Wire.Announcement

/-! # Accepting result connections

The first frame on a result connection says whose it is. A connection that does not say so in time
is closed; so is one whose client is registered while the gateway stops, for then nobody else
might close it.
-/

namespace QueryGateway.Delivery

/-- What follows from the first read on a connection, which had a result in time or had none. A
connection that ended by itself needs no closing. -/
def accept (handle : Handle) : Option (Except WireError String) → Program Delivery (Option ClientId)
  | none => do
    close handle
    return none
  | some (.error _) => return none
  | some (.ok payload) =>
    match Announcement.parse? payload with
    | none => do
      close handle
      return none
    | some announcement => do
      let client := announcement.client
      let _ ← register client handle
      if ← stopping then
        let _ ← removeIfCurrent client handle
        close handle
        return none
      return some client

end QueryGateway.Delivery
