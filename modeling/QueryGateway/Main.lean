import QueryGateway.Cli.Run
import QueryGateway.Live.Machine

/-! # The program -/

open QueryGateway

/-- Runs the command that the arguments ask for. -/
def main (arguments : List String) : IO UInt32 := do
  let machine ← Live.Machine.new
  let outcome ← (Cli.run arguments).interpret machine.answer
  match outcome with
  | .success => pure ()
  | .usage => IO.eprintln Cli.usage
  | .failure f => IO.eprintln f.report
  return outcome.code.toUInt32
