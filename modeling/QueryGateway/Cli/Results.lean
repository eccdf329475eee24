import QueryGateway.Cli.Produce
import QueryGateway.Client.Receiver
import QueryGateway.Text.Json

/-! # Receiving results -/

namespace QueryGateway.Cli

/-- Whose results are wanted, and how they are shown. -/
structure ResultsOptions where
  client : ClientId
  queries : List QueryId
  /-- The listener to connect to; without one, that of the settings. -/
  address : Option String
  /-- Every frame is one line of JSON. -/
  json : Bool
  deriving DecidableEq, Repr

/-- A frame as JSON. -/
def frameJson (frame : ResultFrame) : Json :=
  match frame.body with
  | .rows rows => .object [("query", .string frame.query.text), ("rows", .string rows)]
  | .endOfStream => .object [("eof", .boolean true), ("query", .string frame.query.text)]

/-- A frame as it is shown. -/
def frameLines (json : Bool) (frame : ResultFrame) : List String :=
  if json then [(frameJson frame).compact]
  else match frame.body with
    | .rows rows => [s!"--- {frame.query.text} ---", rows]
    | .endOfStream => [s!"=== {frame.query.text} finished ==="]

/-- Shows at most `limit` frames, up to the end of the last query. -/
def showFrames (json : Bool) : (limit : Nat) → Receiver → Command Unit
  | 0, _ => return
  | limit + 1, r => do
    match ← .host (Host.onWire r.next) with
    | (.error e, _) => throw (.client e)
    | (.ok none, _) => return
    | (.ok (some frame), r) => do
      (frameLines json frame).forM fun line => .host (Host.print line)
      showFrames json limit r

/-- More frames than any connection carries. -/
def frameLimit : Nat := 0x4000000000000000

/-- Announces a client on a connection of its own. -/
def announceTo (address : String) (client : ClientId) (queries : List QueryId) :
    Program Host (Except ClientError Receiver) := do
  match ← connectTo address with
  | .ok () => Host.onWire (Receiver.announce client queries)
  | .error e => return .error e

/-- Shows the results of a client until every query has ended. -/
def results (config : Config) (options : ResultsOptions) : Command Unit := do
  if options.queries = [] then
    throw .noQueries
  let address := options.address.getD (dialAddress config.output.address)
  let r ← .attempt (announceTo address options.client options.queries) (.connect address)
  showFrames options.json frameLimit r

end QueryGateway.Cli
