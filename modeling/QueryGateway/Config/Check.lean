import QueryGateway.Config.Decode
import QueryGateway.Config.Error
import QueryGateway.Text.Split

/-! # Checking settings

Every listener needs a host and a port, and the routes must form tables. The first fault in this
order is reported.
-/

namespace QueryGateway.Config

/-- An address is a host and a port, with a colon between them. -/
def isAddress (value : String) : Bool :=
  match Text.cutLast ':' value with
  | some (host, port) => host ≠ "" && (Text.decimal? Text.maxWord16 port).isSome
  | none => false

/-- Checks the address of a listener. -/
def checkAddress (listener value : String) : Except ConfigError Unit :=
  if isAddress value then .ok () else .error (.invalidAddress listener value)

/-- Checks all settings. -/
def check (c : Config) : Except ConfigError Unit := do
  checkAddress "input.movies_address" c.input.moviesAddress
  checkAddress "input.credits_address" c.input.creditsAddress
  checkAddress "input.ratings_address" c.input.ratingsAddress
  if let some address := c.input.connectionsAddress then
    checkAddress "input.connections_address" address
  checkAddress "output.address" c.output.address
  match c.tables with
  | .ok _ => return
  | .error e => throw (.routing e)

/-- The settings in the content of a file, if they can be used. -/
def ofContent (path : String) (content : Except Fault String) : Except ConfigError Config :=
  match content with
  | .error fault => .error (.read path fault)
  | .ok content =>
    match parse content with
    | .error e => .error (.parse path e)
    | .ok config => do
      config.check
      return config

end QueryGateway.Config
