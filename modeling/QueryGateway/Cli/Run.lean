import QueryGateway.Cli.Arguments
import QueryGateway.Cli.Serve
import QueryGateway.Cli.Settings

/-! # Running a command -/

namespace QueryGateway.Cli

/-- How a command ended. -/
inductive Outcome where
  | success
  | failure (failure : Failure)
  /-- The arguments were not understood. -/
  | usage
  deriving DecidableEq, Repr

/-- The exit code. -/
def Outcome.code : Outcome → UInt8
  | success => 0
  | failure _ => 1
  | usage => 2

/-- What the program understands. -/
def usage : String := "Usage: gateway [--config <PATH>] <COMMAND>

Commands:
  serve [--foreground]                        Take records and deliver results
  produce <ENTITY> <FILE> -q <QUERY>...       Send the records of a file
    [--client-id <ID>] [--address <ADDRESS>] [--batch-size <N>] [--skip-header]
  results <CLIENT_ID> -q <QUERY>...           Show the results of a client
    [--address <ADDRESS>] [--json]
  config show [--json]                        Show the settings in use
  config init [--force]                       Create the user's settings file"

/-- Performs a task. -/
def Task.run (explicit : Option String) : Task → Command Unit
  | serve foreground => do Cli.serve (← Command.settings explicit) foreground
  | produce options => do Cli.produce (← Command.settings explicit) options
  | results options => do Cli.results (← Command.settings explicit) options
  | showSettings json => Cli.showSettings explicit json
  | createSettings force => Cli.createSettings force

/-- Runs the program with these arguments. -/
def run (arguments : List String) : Program Host Outcome := do
  match Invocation.parse arguments with
  | none => return .usage
  | some invocation =>
    match ← (invocation.task.run invocation.config).run with
    | .ok () => return .success
    | .error e => return .failure e

end QueryGateway.Cli
