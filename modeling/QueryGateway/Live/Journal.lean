import Std.Time
import QueryGateway.System.Log

/-! # Writing the log

A log line carries the time, in universal time, and its level. A line that cannot be written is
lost.
-/

namespace QueryGateway.Live

/-- The time and date now. -/
def now : IO Std.Time.PlainDateTime :=
  return .ofWallTime (.ofTimestamp (← Std.Time.Timestamp.now) .zero)

/-- The hour in which a time lies. -/
def momentOf (time : Std.Time.PlainDateTime) : Moment :=
  ⟨time.year.toInt.toNat, time.month.toInt.toNat, time.day.toInt.toNat, time.hour.toInt.toNat⟩

/-- A time as it is written in front of a log line. -/
def stamp (time : Std.Time.PlainDateTime) : String :=
  let m := momentOf time
  let two := Rotation.padded 2
  s!"{Rotation.padded 4 m.year}-{two m.month}-{two m.day}T{two m.hour}:" ++
    s!"{two time.minute.toInt.toNat}:{two time.second.toInt.toNat}Z"

/-- Appends a text to the log. -/
def append (sink : LogSink) (time : Std.Time.PlainDateTime) (text : String) : IO Unit := do
  match sink with
  | .console => IO.print text
  | .errorOutput => IO.eprint text
  | .files directory rotation =>
    let path := s!"{directory}/{rotation.fileName (momentOf time)}"
    (← IO.FS.Handle.mk path .append).putStr text

/-- Writes a log line. -/
def writeLog (sink : LogSink) (level : LogLevel) (line : String) : IO Unit := do
  try
    let time ← now
    append sink time s!"{stamp time} {level.name} {line}\n"
  catch _ => return

/-- Opens a log; its first file is there from then on. -/
def openLog (sink : LogSink) : IO Unit := do
  try append sink (← now) ""
  catch _ => return

/-- Writes a log line, if the log admits its level. -/
def note (log : Log) (level : LogLevel) (line : String) : IO Unit :=
  if log.admits level then writeLog log.sink level line else pure ()

end QueryGateway.Live
