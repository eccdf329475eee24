import QueryGateway.Cli.Failure
import QueryGateway.Gateway.Run

/-! # Running the gateway from the command line

In the foreground the log goes to the console. Otherwise it goes to files of a directory, or, if
that cannot be created, to the error output, with the usual threshold.
-/

namespace QueryGateway.Cli

/-- The directory of the log files where none is set. -/
def defaultLogDirectory : Program Host String := do
  match ← Host.environment "DATA_DIR", ← Host.environment "XDG_DATA_HOME", ← Host.environment "HOME" with
  | some directory, _, _ => return directory
  | none, some directory, _ => return Config.child directory "gateway"
  | none, none, some home => return Config.child home ".local/share/gateway"
  | none, none, none => return "./gateway"

/-- Opens the log. -/
def openLog (process : Config.Process) (foreground : Bool) : Program Host Log := do
  let threshold := LogLevel.ofSetting process.logLevel
  let log ← if foreground then pure ⟨.console, threshold⟩ else do
    let directory ← match process.logDirectory with
      | some directory => pure directory
      | none => defaultLogDirectory
    match ← Host.createDirectory directory with
    | .ok () => pure ⟨.files directory (.ofSetting process.logRotation), threshold⟩
    | .error _ => pure ⟨.errorOutput, .info⟩
  Host.openLog log.sink
  return log

/-- Runs the gateway until it is told to stop. -/
def serve (config : Config) (foreground : Bool) : Command Unit := do
  let log ← .host (openLog config.process foreground)
  let broker := Broker.new config.queues.capacity
  .attempt (Prod.fst <$> (Gateway.run config log).run.run broker) .gateway

end QueryGateway.Cli
