import QueryGateway.Program
import QueryGateway.Wire.Frame

/-! # Framed connections

A connection keeps what arrived and was not read as frames yet. It never waits by itself: a read
either has a result now or needs more input. After a failed read the next one reports the end of
the connection once, without a look at the buffer, so that a reader that stops at the first end
stops there; later reads go on with what arrives then.
-/

namespace QueryGateway

/-- How many bytes of earlier writes may be left unsent before a write first sends them. -/
def sendThreshold : Nat := 8 * 1024

/-- What has arrived for a connection and was not looked at yet. -/
structure Inlet where
  waiting : Bytes
  /-- Nothing arrives after the waiting bytes. -/
  ended : Bool
  deriving DecidableEq, Repr

/-- The state of a framed connection. -/
structure Connection where
  decoder : FrameDecoder
  /-- The decoder may hold a frame. -/
  readable : Bool
  /-- The end of the input was seen. -/
  ended : Bool
  /-- The read before failed on the bytes of a frame. -/
  failed : Bool
  /-- How many bytes were written but could not be sent. -/
  unsent : Nat
  deriving DecidableEq, Repr

namespace Connection

/-- A connection that was just opened. -/
def opened : Connection := ⟨.empty, false, false, false, 0⟩

/-- Notes what the decoder returned. -/
def settle (c : Connection) :
    Option (Except WireError String) × FrameDecoder → Option (Except WireError String) × Connection
  | (some (.ok frame), d) => (some (.ok frame), { c with decoder := d })
  | (some (.error e), d) => (some (.error e), { c with decoder := d, failed := true })
  | (none, d) => (none, { c with decoder := d, readable := false })

/-- The result of a read that needs no more input. -/
def poll (c : Connection) : Option (Except WireError String) × Connection :=
  if c.failed then (some (.error .closed), { c with failed := false, readable := false })
  else if !c.readable then (none, c)
  else if c.ended then
    match c.settle c.decoder.nextAtEnd with
    | (none, c) => (some (.error .closed), c)
    | result => result
  else c.settle c.decoder.next

/-- Bytes arrive. -/
def receive (c : Connection) (bytes : Bytes) : Connection :=
  { c with decoder := c.decoder.append bytes, readable := true, ended := false }

/-- The end of the input arrives. -/
def receiveEnd (c : Connection) : Connection :=
  if c.ended then c else { c with readable := true, ended := true }

/-- Reads a frame from what has arrived. Without a result the reader has to wait. -/
def read (c : Connection) (inlet : Inlet) :
    Option (Except WireError String) × Connection × Inlet :=
  match c.poll with
  | (some result, c) => (some result, c, inlet)
  | (none, c) =>
    let rest := { inlet with waiting := [] }
    match if inlet.waiting.isEmpty then (none, c) else (c.receive inlet.waiting).poll with
    | (some result, c) => (some result, c, rest)
    | (none, c) =>
      if !inlet.ended then (none, c, rest)
      else match c.receiveEnd.poll with
        | (some result, c) => (some result, c, rest)
        | (none, c) => (some (.error .closed), c, rest)

/-- Writes a frame. The bytes to send are returned; if the other side is not `reachable` they stay
behind. -/
def write (c : Connection) (payload : String) (reachable : Bool) :
    Except WireError Bytes × Connection :=
  if !reachable && sendThreshold ≤ c.unsent then (.error (.io .brokenPipe), c)
  else match encodeFrame payload with
    | .error e => (.error e, c)
    | .ok bytes =>
      if reachable then (.ok bytes, { c with unsent := 0 })
      else (.error (.io .brokenPipe), { c with unsent := c.unsent + bytes.length })

end Connection

/-- What a component may ask of a connection. -/
inductive Wire.Request where
  /-- Reads a frame. -/
  | read
  /-- Reads a frame, but waits at most `limit` milliseconds for it. -/
  | readWithin (limit : Nat)
  /-- Writes a frame. -/
  | write (payload : String)
  /-- Ends the writing side; the other side sees the end of the connection. -/
  | shutdown

/-- The interface of a component that talks on one connection. A read that is over in time has
a result. -/
def Wire : Interface where
  Request := Wire.Request
  Answer
    | .read => Except WireError String
    | .readWithin _ => Option (Except WireError String)
    | .write _ => Except WireError Unit
    | .shutdown => Unit

namespace Wire

/-- Reads a frame. -/
def read : Program Wire (Except WireError String) :=
  .ask (I := Wire) .read

/-- Reads a frame, or gives up after `limit` milliseconds. -/
def readWithin (limit : Nat) : Program Wire (Option (Except WireError String)) :=
  .ask (I := Wire) (.readWithin limit)

/-- Writes a frame. -/
def write (payload : String) : Program Wire (Except WireError Unit) :=
  .ask (I := Wire) (.write payload)

/-- Ends the writing side. -/
def shutdown : Program Wire Unit :=
  .ask (I := Wire) .shutdown

end Wire

end QueryGateway
