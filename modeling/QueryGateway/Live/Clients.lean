import Std.Sync.Mutex
import QueryGateway.Delivery.Registry
import QueryGateway.Live.Stream

/-! # Result connections on the network

Every handle stands for a connection that is kept until it is closed or lost. Whoever delivers on a
connection or closes it has it for itself meanwhile.
-/

namespace QueryGateway.Live

/-- A result connection, with the number of replies that its client owes. -/
structure Client where
  stream : Stream
  owed : Std.Mutex Nat

namespace Client

/-- A client that owes nothing. -/
def ofStream (stream : Stream) : IO Client :=
  return ⟨stream, ← Std.Mutex.new 0⟩

/-- Delivers a frame and waits for the reply. -/
def deliver (c : Client) (frame : ResultFrame) (timeout : Nat) :
    IO (Except WireError AckOutcome) :=
  c.owed.atomically do
    let (outcome, owed) ← liftM ((Link.deliver frame timeout (← get)).interpret c.stream.answer)
    set owed
    return outcome

/-- Ends the writing side, as soon as no delivery is going on. -/
def close (c : Client) : IO Unit :=
  c.owed.atomically (liftM c.stream.shutdown : Std.AtomicT Nat IO Unit)

end Client

/-- The registered clients and the connections of all handles. -/
structure Directory where
  registry : Registry
  clients : Table Handle Client
  /-- The next handle to give out. -/
  fresh : Nat

/-- A directory for many tasks. -/
structure Clients where
  state : Std.Mutex Directory

namespace Clients

/-- No clients. -/
def new : IO Clients :=
  return ⟨← Std.Mutex.new ⟨.empty, .empty, 0⟩⟩

/-- Changes the directory. -/
def update (c : Clients) (change : Directory → α × Directory) : IO α :=
  c.state.atomically (modifyGet change : Std.AtomicT Directory IO α)

/-- Changes the registry. -/
def updateRegistry (c : Clients) (change : Registry → α × Registry) : IO α :=
  c.update fun d => (change d.registry).map id fun registry => { d with registry }

/-- The connection of a handle. -/
def client? (c : Clients) (handle : Handle) : IO (Option Client) :=
  c.update fun d => (d.clients.get? handle, d)

/-- Keeps a connection under a handle of its own. -/
def keep (c : Clients) (client : Client) : IO Handle :=
  c.update fun d =>
    (⟨d.fresh⟩, { d with clients := d.clients.insert ⟨d.fresh⟩ client, fresh := d.fresh + 1 })

/-- Lets go of a connection. -/
def release (c : Clients) (handle : Handle) : IO Unit :=
  c.update fun d => ((), { d with clients := d.clients.erase handle })

/-- Delivers a frame. A connection that is lost thereby is let go of. -/
def deliver (c : Clients) (handle : Handle) (frame : ResultFrame) (timeout : Nat) :
    IO (Except WireError AckOutcome) := do
  match ← c.client? handle with
  | none => return .error .closed
  | some client =>
    let outcome ← client.deliver frame timeout
    match outcome with
    | .error e => if e.losesConnection then c.release handle
    | .ok _ => pure ()
    return outcome

/-- Closes a connection and lets go of it. -/
def close (c : Clients) (handle : Handle) : IO Unit := do
  match ← c.client? handle with
  | none => return
  | some client =>
    client.close
    c.release handle

/-- Answers the requests of the delivery side. -/
def answer (c : Clients) (stop : Stop) : (request : Delivery.Request) → IO (Delivery.Answer request)
  | .lookup client => c.updateRegistry fun r => (r.get? client, r)
  | .insert client handle => c.updateRegistry (·.insert client handle)
  | .removeIfCurrent client handle => c.updateRegistry (·.removeIfCurrent client handle)
  | .drain => c.updateRegistry Registry.drain
  | .deliver handle frame timeout => c.deliver handle frame timeout
  | .close handle => c.close handle
  | .stopping => stop.isGiven

end Clients

end QueryGateway.Live
