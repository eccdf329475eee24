import QueryGateway.Config.Basic
import QueryGateway.Text.Json
import QueryGateway.Toml.Printer

/-! # Writing settings

Settings are shown in full, defaults included, in the format of a settings file or as JSON. A
listener or a directory that is not set is left out.
-/

namespace QueryGateway

namespace Config

open Toml (Value Entries)

/-- A number as a value. -/
def count (n : Nat) : Value := .integer n

/-- A setting that may be left out. -/
def optional (name : String) : Option String → Entries
  | none => []
  | some value => [(name, .string value)]

/-- The values of the side that takes records in. -/
def Input.entries (input : Input) : Entries :=
  [("movies_address", .string input.moviesAddress),
    ("credits_address", .string input.creditsAddress),
    ("ratings_address", .string input.ratingsAddress)] ++
  optional "connections_address" input.connectionsAddress ++
  [("read_timeout_secs", count input.readTimeout),
    ("fan_out_retries", count input.fanOutRetries.toNat)]

/-- The values of the side that delivers results. -/
def Output.entries (output : Output) : Entries :=
  [("address", .string output.address),
    ("results_queue", .string output.resultsQueue),
    ("ack_timeout_secs", count output.ackTimeout),
    ("announce_timeout_secs", count output.announceTimeout),
    ("eof_counts", .table (output.endCounts.map fun (query, n) => (query, count n)))]

/-- The values of the process. -/
def Process.entries (process : Process) : Entries :=
  [("log_level", .string process.logLevel), ("log_rotation", .string process.logRotation)] ++
  optional "log_dir" process.logDirectory

/-- The values of a route. -/
def routeEntries (r : Route) : Entries :=
  [("query", .string r.query.text), ("entity", .string r.entity.configName),
    ("queue", .string r.queue), ("eof_count", count r.endCount)]

/-- The values of all settings. -/
def entries (c : Config) : Entries :=
  [("input", .table c.input.entries),
    ("output", .table c.output.entries),
    ("broker", .table [("queue_capacity", count c.queues.capacity)]),
    ("daemon", .table c.process.entries),
    ("routes", .array (c.routes.map fun r => .table (routeEntries r)))]

end Config

mutual

/-- The JSON value of a value of a settings file. -/
def Json.ofValue : Toml.Value → Json
  | .string text => .string text
  | .integer n => .number n
  | .float text => .string text
  | .boolean b => .boolean b
  | .dateTime text => .string text
  | .array items => .array (ofItems items)
  | .table entries => .object (ofEntries entries)

/-- The JSON values of a list. -/
def Json.ofItems : List Toml.Value → List Json
  | [] => []
  | value :: rest => ofValue value :: ofItems rest

/-- The members of the JSON object of a table. -/
def Json.ofEntries : List (String × Toml.Value) → List (String × Json)
  | [] => []
  | (key, value) :: rest => (key, ofValue value) :: ofEntries rest

end

namespace Config

/-- The settings as a settings file. -/
def toToml (c : Config) : String := Toml.print c.entries

/-- The settings as JSON. -/
def toJson (c : Config) : Json := .object (Json.ofEntries c.entries)

end Config

end QueryGateway
