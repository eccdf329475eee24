import QueryGateway.Config.Error
import QueryGateway.Queue.Broker

/-! # Failures of the gateway -/

namespace QueryGateway

/-- The listeners of the gateway. -/
inductive Listener where
  /-- Takes the records of one kind. -/
  | records (entity : Entity)
  /-- Hands out client names. -/
  | connections
  /-- Takes the connections that results go to. -/
  | results
  deriving DecidableEq, Repr

/-- The name of a listener. -/
def Listener.name : Listener → String
  | records entity => entity.name
  | connections => "connections"
  | results => "results"

/-- Why the gateway does not run. -/
inductive GatewayError where
  | bind (listener : Listener) (address : String) (fault : Fault)
  | config (error : ConfigError)
  | broker (error : BrokerError)
  deriving DecidableEq, Repr

/-- The text of the error. -/
def GatewayError.message : GatewayError → String
  | bind listener address fault =>
    s!"Failed to bind {listener.name} listener on {address}: {fault.message}"
  | config error => "Configuration error: " ++ error.message
  | broker error => "Broker error: " ++ error.message

end QueryGateway
