import QueryGateway.Config.Check
import QueryGateway.System.Host

/-! # Finding the settings

A path given by the user comes first, then the one in `$GATEWAY_CONFIG`, then the user's own file.
The first two must be there; without a file of the user the defaults hold.
-/

namespace QueryGateway.Config

/-- The variable that names a settings file. -/
def pathVariable : String := "GATEWAY_CONFIG"

/-- Where settings come from. -/
inductive Source where
  | argument (path : String)
  | environment (path : String)
  | user (path : String)
  | builtIn
  deriving DecidableEq, Repr

/-- How a source is shown. -/
def Source.label : Source → String
  | argument path => path ++ " (--config)"
  | environment path => s!"{path} (${pathVariable})"
  | user path => path
  | builtIn => "built-in defaults"

/-- The file of a source. -/
def Source.path? : Source → Option String
  | argument path | environment path | user path => some path
  | builtIn => none

/-- The path of a file in a directory. -/
def child (directory name : String) : String :=
  if directory = "" || directory.toList.getLast? = some '/' then directory ++ name
  else directory ++ "/" ++ name

/-- The first directory that is set, and where in it the user's file lies. -/
def userFile (configDirectory xdgDirectory home : Option String) : Option String :=
  (configDirectory.map (child · "config.toml")).or <|
    (xdgDirectory.map (child · "gateway/config.toml")).or <|
      (home.filter (· ≠ "")).map (child · ".config/gateway/config.toml")

/-- The path of the user's file. -/
def userPath : Program Host (Option String) := do
  let configDirectory ← Host.environment "CONFIG_DIR"
  let xdgDirectory ← Host.environment "XDG_CONFIG_HOME"
  let home ← Host.environment "HOME"
  return userFile configDirectory xdgDirectory home

/-- Decides where the settings come from. -/
def locate (explicit : Option String) : Program Host Source := do
  match explicit, ← Host.environment pathVariable with
  | some path, _ => return .argument path
  | none, some path => return .environment path
  | none, none =>
    match ← userPath with
    | none => return .builtIn
    | some path => return if ← Host.isPresent path then .user path else .builtIn

/-- The settings of a source. -/
def loadFrom (source : Source) : Program Host (Except ConfigError Config) := do
  match source.path? with
  | none => return .ok .default
  | some path => return ofContent path (← Host.text path)

/-- The settings to use. -/
def load (explicit : Option String) : Program Host (Except ConfigError Config) := do
  loadFrom (← locate explicit)

end QueryGateway.Config
