import QueryGateway.Cli.Failure
import QueryGateway.Client.Batcher
import QueryGateway.Client.Producer
import QueryGateway.Net.SocketAddress
import QueryGateway.Text.Lines

/-! # Sending a file of records

Every line of the file that is not blank is a record. Records are sent in batches, each after the
acknowledgement of the one before, and then the end of the stream.
-/

namespace QueryGateway.Cli

/-- What is to be sent, and how. -/
structure ProduceOptions where
  entity : Entity
  file : String
  queries : List QueryId
  /-- The name to send under; without one, a fresh name is asked for. -/
  client : Option ClientId
  /-- The listener to connect to; without one, that of the settings. -/
  address : Option String
  batchSize : Nat
  /-- The first line of the file is no record. -/
  skipHeader : Bool
  deriving DecidableEq, Repr

/-- Opens a connection to a listener. -/
def connectTo (address : String) : Program Host (Except ClientError Unit) := do
  match ← Host.connect address with
  | .ok () => return .ok ()
  | .error fault => return .error (.connect address fault)

/-- Asks for a fresh name. -/
def requestClientId (address : String) : Program Host (Except ClientError ClientId) := do
  match ← connectTo address with
  | .ok () => Host.onWire receiveClientId
  | .error e => return .error e

/-- The records of a file. -/
def recordsOf (skipHeader : Bool) (content : String) : List String :=
  ((Text.lines content).drop (if skipHeader then 1 else 0)).filter (!Text.isBlankText ·)

/-- Sends a batch. -/
def sendBatch (p : Producer) (queries : List QueryId) (records : List String) :
    Command Producer := do
  match ← Command.host (Host.onWire (p.sendBatch queries records)) with
  | (.ok _, p) => return p
  | (.error e, _) => throw (.client e)

/-- Sends records, each batch as soon as the next record does not fit to it. -/
def sendRecords (p : Producer) (b : Batcher) (queries : List QueryId) :
    List String → Command (Producer × Batcher)
  | [] => return (p, b)
  | record :: rest => do
    match b.push record with
    | (.error e, _) => throw (.client e)
    | (.ok none, b) => sendRecords p b queries rest
    | (.ok (some batch), b) => do
      let p ← sendBatch p queries batch
      sendRecords p b queries rest

/-- The name to send under. -/
def clientOf (config : Config) (options : ProduceOptions) : Command ClientId := do
  match options.client, config.input.connectionsAddress with
  | some client, _ => return client
  | none, none => throw .noClientId
  | none, some address => .attempt (requestClientId (dialAddress address)) .clientId

/-- Sends a file of records. The name they are sent under is printed before anything is sent. -/
def produce (config : Config) (options : ProduceOptions) : Command Unit := do
  if options.queries = [] then
    throw .noQueries
  if !options.entity.isPrimary && 1 < options.queries.length then
    throw (.tooManyQueries options.entity options.queries.length)
  let content ← .attempt (Host.text options.file) (.readFile options.file)
  let client ← clientOf config options
  .host (Host.print client.text)
  let address := options.address.getD (dialAddress (config.input.address options.entity))
  .attempt (connectTo address) (.connect address)
  let p := Producer.new options.entity client
  let b := Batcher.new options.batchSize (p.headerReserve options.queries)
  let (p, b) ← sendRecords p b options.queries (recordsOf options.skipHeader content)
  let p ← match b.finish.1 with
    | some batch => sendBatch p options.queries batch
    | none => pure p
  .attempt (Host.onWire (p.sendEnd options.queries)) .client

end QueryGateway.Cli
