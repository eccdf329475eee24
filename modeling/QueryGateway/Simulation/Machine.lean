import QueryGateway.Simulation.ClientRun
import QueryGateway.System.Host

/-! # A machine on a small network

Commands run on a machine whose files and variables are given. Its listeners can be bound, and a
scripted peer answers at each address that can be reached; no other can. The gateway is told to stop
as soon as it has nothing to do.
-/

namespace QueryGateway.Simulation

/-- A machine. -/
structure Machine where
  environment : List (String × String)
  files : List (String × Bytes)
  /-- The directories that cannot be created. -/
  blocked : List String
  /-- The addresses on which others listen. -/
  taken : List String
  /-- The peers at the addresses that can be reached. -/
  peers : List (String × Peer)
  now : Time
  /-- The connections that were opened, the last one first. -/
  lines : List Line
  /-- The lines of output, the last one first. -/
  printed : List String
  /-- The places that log lines go to. -/
  sinks : List LogSink
  /-- Where log lines went, and their levels. -/
  logged : List (LogSink × LogLevel)
  /-- The broker of the gateway while it ran. -/
  served : Option Broker

namespace Machine

/-- A machine with these variables and files, on which nothing has happened. -/
def new (environment : List (String × String)) (files : List (String × Bytes)) : Machine :=
  ⟨environment, files, [], [], [], 0, [], [], [], [], none⟩

/-- The bytes of a file. -/
def file? (m : Machine) (path : String) : Option Bytes :=
  (m.files.find? (·.1 = path)).map Prod.snd

/-- Replaces a file. -/
def setFile (m : Machine) (path : String) (bytes : Bytes) : Machine :=
  { m with files := (path, bytes) :: m.files.filter (·.1 ≠ path) }

/-- Opens a connection to the peer at an address. -/
def connect (m : Machine) (address : String) : Except Fault Unit × Machine :=
  match m.peers.lookup address with
  | none => (.error .networkUnreachable, m)
  | some peer =>
    let dropped := match m.lines with
      | [] => []
      | line :: rest => line.drop m.now :: rest
    (.ok (), { m with lines := .new peer :: dropped })

/-- Answers a request to the open connection. -/
def onLine (m : Machine) (request : Wire.Request) : Option (Wire.Answer request) × Machine :=
  match m.lines with
  | [] => (none, m)
  | line :: rest =>
    let (answer, now, line) := Line.handle request (m.now, line)
    (answer, { m with now, lines := line :: rest })

/-- Answers the requests of a command. -/
def handle : Program.Handler Host Machine
  | .environment name, m => (some (m.environment.lookup name), m)
  | .present path, m => (some (m.file? path).isSome, m)
  | .content path, m => (some ((m.file? path).elim (.error .notFound) .ok), m)
  | .store path text, m => (some (.ok ()), m.setFile path (.ofText text))
  | .createDirectory path, m =>
    (some (if m.blocked.contains path then .error (.other "no directory") else .ok ()), m)
  | .print line, m => (some (), { m with printed := line :: m.printed })
  | .openLog sink, m => (some (), { m with sinks := m.sinks ++ [sink] })
  | .log sink level _, m => (some (), { m with logged := (sink, level) :: m.logged })
  | .connect address, m =>
    let (connected, m) := m.connect address
    (some connected, m)
  | .wire request, m => m.onLine request
  | .bind _ address, m =>
    (some (if m.taken.contains address then .error .addressInUse else .ok ()), m)
  | .serve site, m => (some site.broker, { m with served := some site.broker })

/-- Runs a command. -/
def perform (m : Machine) (p : Program Host α) : Option α × Machine :=
  p.run handle m

/-- What the peers have seen once everything is over, in the order of their connections. -/
def reports (m : Machine) : List PeerReport :=
  m.lines.reverse.map (Line.finish m.now)

/-- The output. -/
def output (m : Machine) : String :=
  String.join (m.printed.reverse.map (· ++ "\n"))

/-- The levels of the log lines that went to a place, the most important one first. -/
def levels (m : Machine) (sink : LogSink) : List LogLevel :=
  [LogLevel.error, .warn, .info, .debug, .trace].filter fun level => m.logged.contains (sink, level)

end Machine

end QueryGateway.Simulation
