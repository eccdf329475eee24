import QueryGateway.Client.Error
import QueryGateway.Config.Load

/-! # Failures of a command

A failure is shown as the chain of its causes, the outermost first.
-/

namespace QueryGateway

/-- The error and what caused it. -/
def WireError.chain (e : WireError) : List String :=
  match e with
  | .io fault => [e.message, fault.message]
  | _ => [e.message]

/-- The error and what caused it. -/
def ClientError.chain (e : ClientError) : List String :=
  match e with
  | .connect _ fault => [e.message, fault.message]
  | .wire error => e.message :: error.chain
  | _ => [e.message]

/-- The error and what caused it. -/
def ConfigError.chain (e : ConfigError) : List String :=
  match e with
  | .read _ fault => [e.message, fault.message]
  | .parse _ error => [e.message, error.message]
  | _ => [e.message]

/-- The error and what caused it. -/
def GatewayError.chain (e : GatewayError) : List String :=
  match e with
  | .bind _ _ fault => [e.message, fault.message]
  | .config error => e.message :: error.chain
  | .broker error => [e.message, error.message]

namespace Cli

/-- Why a command failed. -/
inductive Failure where
  | settings (error : ConfigError)
  /-- No directory for a settings file is known. -/
  | noSettingsPath
  | createDirectory (path : String) (fault : Fault)
  | writeFile (path : String) (fault : Fault)
  | readFile (path : String) (fault : Fault)
  | noQueries
  /-- Several queries were named for records that feed one. -/
  | tooManyQueries (entity : Entity) (count : Nat)
  /-- No name was given, and none can be asked for. -/
  | noClientId
  | clientId (error : ClientError)
  | connect (address : String) (error : ClientError)
  | client (error : ClientError)
  | gateway (error : GatewayError)
  deriving DecidableEq, Repr

/-- The failure and what caused it. -/
def Failure.chain : Failure → List String
  | settings error => "Failed to load config" :: error.chain
  | noSettingsPath => ["Could not determine a config directory"]
  | createDirectory path fault => [s!"Failed to create {path}", fault.message]
  | writeFile path fault => [s!"Failed to write {path}", fault.message]
  | readFile path fault => [s!"Failed to read {path}", fault.message]
  | noQueries => ["At least one --query is required"]
  | tooManyQueries entity count => [s!"{entity.name} records feed a single query, got {count}"]
  | noClientId => ["No --client-id given and input.connections_address is not configured"]
  | clientId error => "Failed to obtain a client id" :: error.chain
  | connect address error => s!"Failed to connect to {address}" :: error.chain
  | client error => error.chain
  | gateway error => "Gateway stopped with an error" :: error.chain

/-- The failure as it is shown to the user. -/
def Failure.report (f : Failure) : String :=
  match f.chain with
  | [] => "Error"
  | [problem] => "Error: " ++ problem
  | [problem, cause] => s!"Error: {problem}\n\nCaused by:\n    {cause}"
  | problem :: causes =>
    let numbered := causes.mapIdx fun i cause => s!"\n    {i}: {cause}"
    s!"Error: {problem}\n\nCaused by:" ++ String.join numbered

/-- A command at work. -/
abbrev Command (α : Type) := ExceptT Failure (Program Host) α

/-- A request to the machine. -/
def Command.host (p : Program Host α) : Command α := ExceptT.lift p

/-- A request that may fail. -/
def Command.attempt (p : Program Host (Except ε α)) (failure : ε → Failure) : Command α := do
  match ← Command.host p with
  | .ok a => return a
  | .error e => throw (failure e)

/-- The settings to use. -/
def Command.settings (explicit : Option String) : Command Config :=
  .attempt (Config.load explicit) .settings

end Cli

end QueryGateway
