import QueryGateway.Cli.Failure
import QueryGateway.Config.Encode
import QueryGateway.Config.Template

/-! # Showing and creating settings -/

namespace QueryGateway.Cli

/-- Shows the settings in use, as a settings file with a line that says where they come from, or as
JSON. -/
def showSettings (explicit : Option String) (json : Bool) : Command Unit := do
  let config ← Command.settings explicit
  if json then
    Command.host (Host.print config.toJson.pretty)
  else
    let source ← Command.host (Config.locate explicit)
    Command.host (Host.print s!"# Using: {source.label}\n")
    Command.host (Host.print config.toToml)

/-- The directory that a file lies in. -/
def parentOf (path : String) : String :=
  ((Text.cutLast '/' path).map Prod.fst).getD ""

/-- Creates the user's settings file. One that is there is only replaced if that is asked for. -/
def createSettings (force : Bool) : Command Unit := do
  match ← Command.host Config.userPath with
  | none => throw .noSettingsPath
  | some path =>
    if !force && (← Command.host (Host.isPresent path)) then
      Command.host (Host.print s!"Config already exists: {path}")
      Command.host (Host.print "Use --force to overwrite, or edit the file directly.")
    else
      let directory := parentOf path
      Command.attempt (Host.createDirectory directory) (.createDirectory directory)
      Command.attempt (Host.store path Config.template) (.writeFile path)
      Command.host (Host.print s!"Created config: {path}")

end QueryGateway.Cli
