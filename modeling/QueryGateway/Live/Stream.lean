import Std.Async.TCP
import Std.Async.Timer
import QueryGateway.Live.Address
import QueryGateway.Live.Failure
import QueryGateway.Live.Stop
import QueryGateway.Wire.Connection

/-! # Connections on the network -/

namespace QueryGateway.Live

/-- A framed connection over a socket. One task at a time uses it. -/
structure Stream where
  socket : Std.Async.TCP.Socket.Client
  state : IO.Ref (Connection × Inlet)

/-- How a wait for input ends. -/
inductive Arrival where
  /-- Bytes arrived, or the end of the input. -/
  | input (bytes : Option ByteArray)
  | late
  | stopped

namespace Stream

/-- The most bytes that are taken from a socket at once. -/
def chunkSize : UInt64 := 64 * 1024

/-- The connection over a socket that was just opened. -/
def ofSocket (socket : Std.Async.TCP.Socket.Client) : IO Stream :=
  return ⟨socket, ← IO.mkRef (.opened, ⟨[], false⟩)⟩

/-- Connects to the first address that answers. -/
def connect (address : String) : IO Stream := do
  let socket ← firstOf (fun address => do
    let socket ← Std.Async.TCP.Socket.Client.mk
    (socket.connect address).block
    return socket) (← resolve address)
  ofSocket socket

/-- Waits for input, at most `limit` milliseconds and until the gateway stops. Input that is there
already counts even without any time left. -/
def await (s : Stream) (limit : Option Nat) (stop : Option Stop) : IO Arrival := do
  let input : Std.Async.Selectable Arrival :=
    .case (s.socket.recvSelector chunkSize) fun bytes => return .input bytes
  match ← (Std.Async.Selectable.tryOne #[input]).block with
  | some arrival => return arrival
  | none =>
    let clocks ← limit.toList.mapM fun limit => (Std.Async.Selector.sleep (.ofNat limit)).block
    let late := clocks.map fun clock => Std.Async.Selectable.case clock fun () => return Arrival.late
    let stopped := stop.toList.map fun stop =>
      Std.Async.Selectable.case stop.token.selector fun () => return Arrival.stopped
    (Std.Async.Selectable.one (input :: late ++ stopped).toArray).block

/-- Notes what arrived. -/
def receive (s : Stream) (bytes : Option ByteArray) : IO Unit :=
  s.state.modify fun (connection, inlet) =>
    (connection, match bytes with
      | some bytes => { inlet with waiting := inlet.waiting ++ bytes.toList }
      | none => { inlet with ended := true })

/-- The milliseconds up to a time. -/
def timeUntil (time : Nat) : IO Nat :=
  return time - (← IO.monoMsNow)

/-- Reads a frame. There is no result if it is not there by the deadline, or if the gateway stops. -/
partial def readBy (s : Stream) (deadline : Option Nat) (stop : Option Stop) :
    IO (Option (Except WireError String)) := do
  let (connection, inlet) ← s.state.get
  match connection.read inlet with
  | (some result, state) =>
    s.state.set state
    return some result
  | (none, state) =>
    s.state.set state
    let limit ← deadline.mapM timeUntil
    match ← Fault.catching (s.await limit stop) with
    | .error fault => return some (.error (.io fault))
    | .ok (.input bytes) =>
      s.receive bytes
      s.readBy deadline stop
    | .ok _ => return none

/-- Reads a frame within `limit` milliseconds. -/
def readWithin (s : Stream) (limit : Nat) (stop : Option Stop) :
    IO (Option (Except WireError String)) := do
  s.readBy (some ((← IO.monoMsNow) + limit)) stop

/-- Writes a frame. -/
def write (s : Stream) (payload : String) : IO (Except WireError Unit) := do
  let (connection, inlet) ← s.state.get
  match connection.write payload true with
  | (.error e, connection) =>
    s.state.set (connection, inlet)
    return .error e
  | (.ok bytes, connection) =>
    s.state.set (connection, inlet)
    let sent ← Fault.catching (s.socket.send ⟨bytes.toArray⟩).block
    return sent.mapError .io

/-- Ends the writing side. A connection that is gone has ended already. -/
def shutdown (s : Stream) : IO Unit := do
  discard (Fault.catching s.socket.shutdown.block)

/-- Answers the requests of a component that talks on the connection. -/
def answer (s : Stream) : (request : Wire.Request) → IO (Wire.Answer request)
  | .read => return (← s.readBy none none).getD (.error .closed)
  | .readWithin limit => s.readWithin limit none
  | .write payload => s.write payload
  | .shutdown => s.shutdown

end Stream

end QueryGateway.Live
