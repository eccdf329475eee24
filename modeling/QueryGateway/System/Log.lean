import QueryGateway.Text.Casing

/-! # Logs

A log line has a level. Lines below the threshold of a log are left out. A log goes to the console,
to the error output, or to files of a directory; a file of its own may start each day or hour.
-/

namespace QueryGateway

/-- How important a log line is. -/
inductive LogLevel where
  | error
  | warn
  | info
  | debug
  | trace
  deriving DecidableEq, Repr

namespace LogLevel

/-- The name of a level. -/
def name : LogLevel → String
  | error => "ERROR"
  | warn => "WARN"
  | info => "INFO"
  | debug => "DEBUG"
  | trace => "TRACE"

/-- The place of a level, the most important one first. -/
def rank : LogLevel → Nat
  | error => 0
  | warn => 1
  | info => 2
  | debug => 3
  | trace => 4

/-- The threshold that a setting names, in any case. A log that is off still has errors, and what
is no level stands for the usual one. -/
def ofSetting (setting : String) : LogLevel :=
  match Text.lower setting with
  | "off" | "error" => error
  | "warn" => warn
  | "debug" => debug
  | "trace" => trace
  | _ => info

end LogLevel

/-- An hour of a day, in universal time. -/
structure Moment where
  year : Nat
  month : Nat
  day : Nat
  hour : Nat
  deriving DecidableEq, Repr

/-- How often a new log file is started. -/
inductive Rotation where
  | never
  | daily
  | hourly
  deriving DecidableEq, Repr

namespace Rotation

/-- The rotation that a setting names; what is no rotation stands for the usual one. -/
def ofSetting : String → Rotation
  | "never" => never
  | "hourly" => hourly
  | _ => daily

/-- A number with leading zeros. -/
def padded (width n : Nat) : String :=
  let digits := Nat.toDigits 10 n
  String.ofList (List.replicate (width - digits.length) '0' ++ digits)

/-- The name of the log file at a moment. -/
def fileName (rotation : Rotation) (now : Moment) : String :=
  let day := s!"{padded 4 now.year}-{padded 2 now.month}-{padded 2 now.day}"
  match rotation with
  | never => "gateway.log"
  | daily => "gateway.log." ++ day
  | hourly => "gateway.log." ++ day ++ "-" ++ padded 2 now.hour

end Rotation

/-- Where log lines go. -/
inductive LogSink where
  | console
  | errorOutput
  | files (directory : String) (rotation : Rotation)
  deriving DecidableEq, Repr

/-- A log. -/
structure Log where
  sink : LogSink
  /-- The least important level that is written. -/
  threshold : LogLevel
  deriving DecidableEq, Repr

/-- Lines of this level are written. -/
def Log.admits (log : Log) (level : LogLevel) : Bool :=
  level.rank ≤ log.threshold.rank

end QueryGateway
