import QueryGateway.Delivery.Link
import QueryGateway.Entity
import QueryGateway.Program
import QueryGateway.Table

/-! # The clients that are connected

The registry knows the one connection that a client's results go to. Every connection has a handle
of its own, so that whoever still holds the handle of an earlier connection cannot remove the one
that has replaced it. Whoever takes a handle out also closes its connection.
-/

namespace QueryGateway

/-- Stands for one result connection. -/
structure Handle where
  id : Nat
  deriving DecidableEq, Repr

/-- The handle of every registered client. -/
structure Registry where
  clients : Table ClientId Handle
  deriving DecidableEq

namespace Registry

/-- No clients. -/
def empty : Registry := ⟨.empty⟩

/-- The handle of a client. -/
def get? (r : Registry) (client : ClientId) : Option Handle :=
  r.clients.get? client

/-- Gives a client a new handle; the one it had before is returned. -/
def insert (r : Registry) (client : ClientId) (handle : Handle) : Option Handle × Registry :=
  (r.get? client, ⟨r.clients.insert client handle⟩)

/-- Takes a client out. -/
def remove (r : Registry) (client : ClientId) : Option Handle × Registry :=
  (r.get? client, ⟨r.clients.erase client⟩)

/-- Takes a client out if it still has this handle. -/
def removeIfCurrent (r : Registry) (client : ClientId) (handle : Handle) : Bool × Registry :=
  if r.get? client = some handle then (true, ⟨r.clients.erase client⟩) else (false, r)

/-- Takes all clients out. -/
def drain (r : Registry) : List Handle × Registry :=
  (r.clients.values, empty)

/-- The number of clients. -/
def size (r : Registry) : Nat :=
  r.clients.size

end Registry

/-- What the delivery side may ask for. -/
inductive Delivery.Request where
  | lookup (client : ClientId)
  | insert (client : ClientId) (handle : Handle)
  | removeIfCurrent (client : ClientId) (handle : Handle)
  | drain
  /-- Delivers a frame and waits for the reply, each time at most `timeout` milliseconds. -/
  | deliver (handle : Handle) (frame : ResultFrame) (timeout : Nat)
  /-- Ends the writing side of a connection. -/
  | close (handle : Handle)
  /-- Whether the gateway is stopping. -/
  | stopping

/-- The interface of the delivery side. -/
def Delivery : Interface where
  Request := Delivery.Request
  Answer
    | .lookup _ => Option Handle
    | .insert _ _ => Option Handle
    | .removeIfCurrent _ _ => Bool
    | .drain => List Handle
    | .deliver _ _ _ => Except WireError AckOutcome
    | .close _ => Unit
    | .stopping => Bool

namespace Delivery

/-- The handle of a client. -/
def lookup (client : ClientId) : Program Delivery (Option Handle) :=
  .ask (I := Delivery) (.lookup client)

/-- Takes a client out if it still has this handle. -/
def removeIfCurrent (client : ClientId) (handle : Handle) : Program Delivery Bool :=
  .ask (I := Delivery) (.removeIfCurrent client handle)

/-- Delivers a frame on a connection. -/
def deliver (handle : Handle) (frame : ResultFrame) (timeout : Nat) :
    Program Delivery (Except WireError AckOutcome) :=
  .ask (I := Delivery) (.deliver handle frame timeout)

/-- Closes a connection. -/
def close (handle : Handle) : Program Delivery Unit :=
  .ask (I := Delivery) (.close handle)

/-- Whether the gateway is stopping. -/
def stopping : Program Delivery Bool :=
  .ask (I := Delivery) .stopping

/-- Gives a client a connection. The one it had before is closed and returned. -/
def register (client : ClientId) (handle : Handle) : Program Delivery (Option Handle) := do
  match ← (.ask (I := Delivery) (.insert client handle) : Program Delivery (Option Handle)) with
  | none => return none
  | some old =>
    close old
    return some old

/-- Closes one connection after the other. -/
def closeEach : List Handle → Program Delivery Unit
  | [] => return
  | handle :: rest => do
    close handle
    closeEach rest

/-- Takes out all clients and closes their connections. The result is how many there were. -/
def closeAll : Program Delivery Nat := do
  let handles ← (.ask (I := Delivery) .drain : Program Delivery (List Handle))
  closeEach handles
  return handles.length

end Delivery

end QueryGateway
