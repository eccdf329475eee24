import QueryGateway.Simulation.Peer
import QueryGateway.Wire.Connection

/-! # Lines

A line is a connection to a scripted peer, on a virtual clock. Time passes only while this side
waits: the clock jumps to the next thing the peer does, or to the end of the wait.
-/

namespace QueryGateway.Simulation

/-- A connection and the peer at its other end. -/
structure Line where
  connection : Connection
  inlet : Inlet
  /-- This side may still write. -/
  writable : Bool
  /-- This side still reads. -/
  listening : Bool
  peer : Peer
  /-- How many replies the peer owes, where replies are counted. -/
  owed : Nat

namespace Line

/-- A new line to a peer. -/
def new (peer : Peer) : Line :=
  ⟨.opened, ⟨[], false⟩, true, true, peer, 0⟩

/-- Lets the peer do what is due by the limit. -/
def advance (l : Line) (limit : Option Time) : Line :=
  let (bytes, peer) := l.peer.run l.listening limit
  { l with
    peer
    inlet := ⟨l.inlet.waiting ++ bytes, l.inlet.ended || peer.status ≠ .running⟩ }

/-- Ends the writing side. -/
def shutdown (l : Line) (now : Time) : Line :=
  { l with writable := false, peer := l.peer.receiveEnd now }

/-- Drops this side. -/
def drop (l : Line) (now : Time) : Line :=
  { l.shutdown now with listening := false }

/-- Stops the peer from outside. -/
def hangUp (l : Line) : Line :=
  let peer := l.peer.hangUp
  { l with peer, inlet := { l.inlet with ended := true } }

/-- Writes a frame. -/
def write (l : Line) (now : Time) (payload : String) : Except WireError Unit × Line :=
  let reachable := l.writable && l.peer.status = .running
  match l.connection.write payload reachable with
  | (.ok _, connection) => (.ok (), { l with connection, peer := l.peer.receive now payload })
  | (.error e, connection) => (.error e, { l with connection })

/-- How a wait for a frame may end. -/
inductive Waited where
  | result (result : Except WireError String)
  | timedOut
  /-- Nothing will ever arrive. -/
  | stuck

/-- Waits for a frame until `deadline`, letting the peer do at most `fuel` things. -/
def awaitFor (deadline : Option Time) : (fuel : Nat) → Time → Line → Waited × Time × Line
  | fuel, now, l =>
    match l.connection.read l.inlet with
    | (some result, connection, inlet) => (.result result, now, { l with connection, inlet })
    | (none, connection, inlet) =>
      let l := { l with connection, inlet }
      let ended := (deadline.elim .stuck fun _ => .timedOut, deadline.getD now, l)
      match fuel, l.peer.next? with
      | fuel + 1, some time =>
        let time := max now time
        if Peer.within deadline time && deadline ≠ some now then
          awaitFor deadline fuel time (l.advance (some time))
        else ended
      | _, _ => ended

/-- Waits for a frame until `deadline`. What has arrived already is taken even if it is now. -/
def await (l : Line) (now : Time) (deadline : Option Time) : Waited × Time × Line :=
  awaitFor deadline l.peer.workload now l

/-- Answers the requests of a component that talks on the line. -/
def handle : Program.Handler Wire (Time × Line)
  | .read, (now, l) =>
    match l.await now none with
    | (.result result, state) => (some result, state)
    | (_, state) => (none, state)
  | .readWithin limit, (now, l) =>
    match l.await now (some (now + limit)) with
    | (.result result, state) => (some (some result), state)
    | (_, state) => (some none, state)
  | .write payload, (now, l) =>
    let (answer, l) := l.write now payload
    (some answer, now, l)
  | .shutdown, (now, l) => (some (), now, l.shutdown now)

end Line

end QueryGateway.Simulation
