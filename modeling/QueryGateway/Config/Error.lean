import QueryGateway.Routing.Route
import QueryGateway.System.Fault
import QueryGateway.Toml.Value

/-! # Failures of the settings -/

namespace QueryGateway

/-- Why settings cannot be used. -/
inductive ConfigError where
  | read (path : String) (fault : Fault)
  | parse (path : String) (error : Toml.Error)
  | routing (error : RoutingError)
  | invalidAddress (listener value : String)
  deriving DecidableEq, Repr

/-- The text of the error. -/
def ConfigError.message : ConfigError → String
  | read path fault => s!"Failed to read config {path}: {fault.message}"
  | parse path error => s!"Failed to parse config {path}: {error.message}"
  | routing error => error.message
  | invalidAddress listener value => s!"Invalid address for {listener}: {value}"

end QueryGateway
