import QueryGateway.Live.Service

/-! # The machine that the program runs on -/

namespace QueryGateway.Live

/-- What a command has opened. -/
structure Machine where
  stream : IO.Ref (Option Stream)
  servers : IO.Ref (List (Listener × Server))

/-- Whether there is something at a path. What may not be opened is there. -/
def isPresent (path : String) : IO Bool := do
  try
    discard (IO.FS.Handle.mk path .read)
    return true
  catch
    | .permissionDenied .. => return true
    | _ => return false

/-- The answers where no connection was opened. -/
def unconnected : (request : Wire.Request) → Wire.Answer request
  | .read => .error .closed
  | .readWithin _ => some (.error .closed)
  | .write _ => .error .closed
  | .shutdown => ()

namespace Machine

/-- Nothing is open. -/
def new : IO Machine :=
  return ⟨← IO.mkRef none, ← IO.mkRef []⟩

/-- Answers a request to the open connection. -/
def answerWire (m : Machine) (request : Wire.Request) : IO (Wire.Answer request) := do
  match ← m.stream.get with
  | some stream => stream.answer request
  | none => return unconnected request

/-- Answers the requests of a command. -/
def answer (m : Machine) : (request : Host.Request) → IO (Host.Answer request)
  | .environment name => IO.getEnv name
  | .present path => isPresent path
  | .content path => Fault.catching (return (← IO.FS.readBinFile path).toList)
  | .store path text => Fault.catching (IO.FS.writeFile path text)
  | .createDirectory path => Fault.catching (IO.FS.createDirAll path)
  | .print line => IO.println line
  | .openLog sink => openLog sink
  | .log sink level line => writeLog sink level line
  | .connect address => Fault.catching (do m.stream.set (some (← Stream.connect address)))
  | .wire request => m.answerWire request
  | .bind listener address => Fault.catching do
    let server ← listenOn address
    m.servers.modify (· ++ [(listener, server)])
  | .serve site => do serve site (← m.servers.modifyGet fun servers => (servers, []))

end Machine

end QueryGateway.Live
