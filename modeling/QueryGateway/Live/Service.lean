import QueryGateway.Delivery.Announce
import QueryGateway.Delivery.Consumer
import QueryGateway.Ingest.Identity
import QueryGateway.Ingest.Session
import QueryGateway.Live.Clients
import QueryGateway.Live.Journal
import QueryGateway.Live.Queues
import QueryGateway.System.Host
import QueryGateway.Text.Quoted

/-! # The gateway on the network

Every listener and every connection has a task of its own, and one task takes the results. When the
gateway is told to stop, the listeners are closed first, then a delivery in progress is finished,
and then the connections of the clients are closed.
-/

namespace QueryGateway.Live

/-- The socket of a listener. -/
abbrev Server := Std.Async.TCP.Socket.Server

/-- How many connections may wait at a listener. -/
def backlog : UInt32 := 1024

/-- Opens a listener. -/
def listenOn (address : String) : IO Server := do
  firstOf (fun address => do
    let server ← Std.Async.TCP.Socket.Server.mk
    server.bind address
    server.listen backlog
    return server) (← resolve address)

/-- Starts a task on a thread of its own. -/
def start (task : IO α) : IO (Task (Except IO.Error α)) :=
  IO.asTask task Task.Priority.dedicated

/-- A gateway at work. -/
structure Service where
  site : Site
  queues : Queues
  clients : Clients
  stop : Stop

namespace Service

/-- Writes a log line. -/
def note (s : Service) (level : LogLevel) (line : String) : IO Unit :=
  Live.note s.site.log level line

/-- The router of the gateway. -/
def router (s : Service) : Router :=
  ⟨s.site.tables, s.site.config.input.fanOutRetries⟩

/-- Answers the requests of a session. -/
def answer (s : Service) (stream : Stream) :
    (request : Ingest.Request) → IO (Ingest.Answer request)
  | .publish queue m => s.queues.publish queue m
  | .pause milliseconds => IO.sleep (UInt32.ofNat milliseconds)
  | .acknowledge ack => stream.write ack.text

/-- Serves a producer to its end. -/
partial def serveProducer (s : Service) (stream : Stream) (summary : SessionSummary) :
    IO (Except SessionError SessionSummary) := do
  let read ← if ← s.stop.isGiven then pure none
    else stream.readWithin (1000 * s.site.config.input.readTimeout) (some s.stop)
  match ← (Session.turn s.router summary read).interpret (s.answer stream) with
  | .again summary => s.serveProducer stream summary
  | .over result => return result

/-- Serves a producer, and says in the log how it went. -/
def session (s : Service) (entity : Entity) (stream : Stream) : IO Unit := do
  match ← s.serveProducer stream .empty with
  | .ok summary => s.note .debug s!"Producer of {entity.name} served: {summary.batches} batches"
  | .error e => s.note .warn s!"Producer of {entity.name} lost: {e.message}"

/-- Random bits. -/
def entropy : IO Entropy := do
  let bytes ← IO.getRandomBytes 16
  return ⟨(bytes.extract 0 8).toUInt64LE!, (bytes.extract 8 16).toUInt64LE!⟩

/-- Hands out a name. -/
def assign (s : Service) (stream : Stream) : IO Unit := do
  match ← (assignClientId (← entropy)).interpret stream.answer with
  | .ok client => s.note .info s!"Name {client.text} given"
  | .error e => s.note .warn s!"No name given: {e.message}"

/-- Waits for a client to say whose the connection is. -/
def welcome (s : Service) (stream : Stream) : IO Unit := do
  let handle ← s.clients.keep (← Client.ofStream stream)
  let read ← stream.readWithin (1000 * s.site.config.output.announceTimeout) (some s.stop)
  match ← (Delivery.accept handle read).interpret (s.clients.answer s.stop) with
  | some client => s.note .info s!"Client {client.text} connected"
  | none =>
    s.clients.release handle
    s.note .warn "Connection without a client closed"

/-- Does what a listener is for. -/
def attend (s : Service) : Listener → Stream → IO Unit
  | .records entity => s.session entity
  | .connections => s.assign
  | .results => s.welcome

/-- Takes connections until the gateway stops. -/
partial def listen (s : Service) (listener : Listener) (server : Server) : IO Unit := do
  let next : IO (Option Std.Async.TCP.Socket.Client) := (Std.Async.Selectable.one #[
    .case s.stop.token.selector fun () => return none,
    .case server.acceptSelector fun socket => return some socket]).block
  match ← Fault.catching next with
  | .ok none => return
  | .ok (some socket) =>
    discard (start (do s.attend listener (← Stream.ofSocket socket)))
    s.listen listener server
  | .error fault =>
    s.note .error s!"Connection not accepted: {fault.message}"
    if !(← s.stop.isGiven) then s.listen listener server

/-- What the log says about a message of the results queue. -/
def outcomeNote : DeliveryOutcome → LogLevel × String
  | .delivered => (.debug, "Result delivered")
  | .awaiting remaining => (.debug, s!"End of results counted, {remaining} more awaited")
  | .ackMismatch reply => (.warn, s!"Result answered by {Text.quote reply}")
  | .ackTimedOut => (.warn, "Result not answered in time")
  | .noClient => (.warn, "Result for a client that is not connected")
  | .disconnected => (.error, "Client lost")
  | .desynchronised => (.error, "Client owes a reply and was taken out")
  | .undeliverable e => (.error, "Result not delivered: " ++ e.message)
  | .malformed e => (.warn, "Message not understood: " ++ e.message)

/-- Delivers results until the gateway stops. -/
partial def consume (s : Service) (consumer : Consumer) (counts : Countdown) : IO Unit := do
  match ← s.queues.next s.site.config.output.resultsQueue s.stop with
  | none => return
  | some m =>
    let (outcome, counts) ← (consumer.process counts m).interpret (s.clients.answer s.stop)
    let (level, line) := outcomeNote outcome
    s.note level line
    s.consume consumer counts

/-- The consumer of the results queue. -/
def consumer (s : Service) : Consumer :=
  ⟨s.site.tables.multiplicity, 1000 * s.site.config.output.ackTimeout⟩

/-- Serves until the gateway is told to stop. -/
def run (s : Service) (servers : List (Listener × Server)) : IO Unit := do
  let listening ← servers.mapM fun (listener, server) => start (s.listen listener server)
  let consuming ← start (s.consume s.consumer .empty)
  waitForInterrupt
  s.note .info "Stopping"
  s.stop.give
  s.queues.wake
  (consuming :: listening).forM fun task => discard (IO.wait task)
  let closed ← Delivery.closeAll.interpret (s.clients.answer s.stop)
  s.note .info s!"Connections of {closed} clients closed"
  s.queues.close

end Service

/-- Runs the gateway on its listeners until it is told to stop. The result is its broker then. -/
def serve (site : Site) (servers : List (Listener × Server)) : IO Broker := do
  let s : Service := ⟨site, ← Queues.ofBroker site.broker, ← Clients.new, ← Stop.new⟩
  s.run servers
  s.queues.broker

end QueryGateway.Live
