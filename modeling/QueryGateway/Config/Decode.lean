import QueryGateway.Config.Basic
import QueryGateway.Text.Decimal
import QueryGateway.Toml.Reader

/-! # Settings from the values of a file

A group of settings is a table of named values, or an array of the same values in a fixed order.
What is left out keeps its default; what is not known is passed over.
-/

namespace QueryGateway.Config

open Toml (Value)

/-- A reader of one kind of value. -/
abbrev Decoder (α : Type) := Value → Except Toml.Error α

/-- Reads a text. -/
def text : Decoder String
  | .string s => .ok s
  | _ => .error (.wrongType "a string")

/-- Reads a number that is not negative and at most `bound`. -/
def number (bound : Nat) : Decoder Nat
  | .integer (.ofNat n) => if n ≤ bound then .ok n else .error (.outOfRange (toString n))
  | .integer n => .error (.outOfRange (toString n))
  | _ => .error (.wrongType "an integer")

/-- The values of a group of settings. -/
inductive Group where
  | named (entries : Toml.Entries)
  | listed (items : List Value)

/-- Reads the values of a group. -/
def group : Decoder Group
  | .table entries => .ok (.named entries)
  | .array items => .ok (.listed items)
  | _ => .error (.wrongType "a table")

/-- The value of a setting, which has a name and a place. -/
def Group.value? (g : Group) (place : Nat) (name : String) : Option Value :=
  match g with
  | named entries => Toml.lookup name entries
  | listed items => items[place]?

/-- Reads a setting that may be left out. -/
def Group.get (g : Group) (place : Nat) (name : String) (decode : Decoder α) (default : α) :
    Except Toml.Error α :=
  match g.value? place name with
  | none => .ok default
  | some value => decode value

/-- Reads a setting that must be there. -/
def Group.require (g : Group) (place : Nat) (name : String) (decode : Decoder α) :
    Except Toml.Error α :=
  match g.value? place name with
  | none => .error (.missing name)
  | some value => decode value

/-- Reads the settings of the side that takes records in. -/
def Input.decode : Decoder Input := fun value => do
  let g ← group value
  let default : Input := {}
  let moviesAddress ← g.get 0 "movies_address" text default.moviesAddress
  let creditsAddress ← g.get 1 "credits_address" text default.creditsAddress
  let ratingsAddress ← g.get 2 "ratings_address" text default.ratingsAddress
  let connectionsAddress ←
    g.get 3 "connections_address" (fun v => some <$> text v) default.connectionsAddress
  let readTimeout ← g.get 4 "read_timeout_secs" (number Text.maxWord64) default.readTimeout
  let retries ← g.get 5 "fan_out_retries" (number Text.maxWord32) default.fanOutRetries.toNat
  return {
    moviesAddress, creditsAddress, ratingsAddress, connectionsAddress, readTimeout,
    fanOutRetries := .ofNat retries }

/-- Puts a count into a list in the order of the names. -/
def insertCount (entry : String × Nat) : List (String × Nat) → List (String × Nat)
  | [] => [entry]
  | e :: rest => if entry.1 < e.1 then entry :: e :: rest else e :: insertCount entry rest

/-- Reads the counts of the results queue. -/
def counts : Decoder (List (String × Nat))
  | .table entries => do
    let entries ← entries.mapM fun (name, value) => do
      return (name, ← number Text.maxWord32 value)
    return entries.foldr insertCount []
  | _ => .error (.wrongType "a table")

/-- Reads the settings of the side that delivers results. -/
def Output.decode : Decoder Output := fun value => do
  let g ← group value
  let default : Output := {}
  return {
    address := ← g.get 0 "address" text default.address
    resultsQueue := ← g.get 1 "results_queue" text default.resultsQueue
    ackTimeout := ← g.get 2 "ack_timeout_secs" (number Text.maxWord64) default.ackTimeout
    announceTimeout :=
      ← g.get 3 "announce_timeout_secs" (number Text.maxWord64) default.announceTimeout
    endCounts := ← g.get 4 "eof_counts" Config.counts default.endCounts }

/-- Reads the settings of the queues. -/
def Queues.decode : Decoder Queues := fun value => do
  let g ← group value
  return { capacity := ← g.get 0 "queue_capacity" (number Text.maxWord64) ({} : Queues).capacity }

/-- Reads the settings of the process. -/
def Process.decode : Decoder Process := fun value => do
  let g ← group value
  let default : Process := {}
  return {
    logLevel := ← g.get 0 "log_level" text default.logLevel
    logRotation := ← g.get 1 "log_rotation" text default.logRotation
    logDirectory := ← g.get 2 "log_dir" (fun v => some <$> text v) default.logDirectory }

/-- The kind of records of a name. Only names in lower case count. -/
def entityOf (name : String) : Except Toml.Error Entity :=
  match Entity.all.find? (·.configName = name) with
  | some entity => .ok entity
  | none => .error (.wrongType "movies, credits or ratings")

/-- Reads a kind of records: its name, or a table with its name as the only key. -/
def entityKind : Decoder Entity
  | .string name => entityOf name
  | .table [(name, .table [])] => entityOf name
  | .table [(name, .array [])] => entityOf name
  | _ => .error (.wrongType "movies, credits or ratings")

/-- Reads a route. -/
def route : Decoder Route := fun value => do
  let g ← group value
  return {
    query := ⟨← g.require 0 "query" text⟩
    entity := ← g.require 1 "entity" entityKind
    queue := ← g.require 2 "queue" text
    endCount := ← g.get 3 "eof_count" (number Text.maxWord32) 1 }

/-- Reads the routes. -/
def routeList : Decoder (List Route)
  | .array items => items.mapM route
  | _ => .error (.wrongType "an array")

/-- Reads all settings. -/
def decode (entries : Toml.Entries) : Except Toml.Error Config := do
  let g := Group.named entries
  return {
    input := ← g.get 0 "input" Input.decode {}
    output := ← g.get 1 "output" Output.decode {}
    queues := ← g.get 2 "broker" Queues.decode {}
    process := ← g.get 3 "daemon" Process.decode {}
    routes := ← g.get 4 "routes" routeList defaultRoutes }

/-- Reads all settings from the text of a file. -/
def parse (content : String) : Except Toml.Error Config := do
  decode (← Toml.read content)

end QueryGateway.Config
