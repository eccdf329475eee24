import QueryGateway.Config.Basic

/-! # The first settings file

A new settings file sets everything that it can to its default and says what it is for. Its parts
have titles between bars.
-/

namespace QueryGateway.Config

namespace Template

/-- The line above and below a title. -/
def bar : String := "# " ++ String.ofList (List.replicate 76 '=')

/-- A part with a title. -/
def titled (title : String) (lines : List String) : List String :=
  bar :: ("# " ++ title) :: bar :: lines

/-- What the file is, and where it may lie. -/
def opening : List String :=
  ["# Gateway Configuration",
   "# Pass with --config, set $GATEWAY_CONFIG, or place in ~/.config/gateway/config.toml",
   ""]

/-- The side that takes records in. -/
def input : List String :=
  titled "Ingestion Router"
    ["",
      "[input]",
      "# One listener per entity kind",
      "movies_address = \"0.0.0.0:12345\"",
      "credits_address = \"0.0.0.0:12346\"",
      "ratings_address = \"0.0.0.0:12347\"",
      "",
      "# Listener that assigns client ids to new producers (comment out to disable)",
      "connections_address = \"0.0.0.0:12344\"",
      "",
      "# Close a producer connection after this many idle seconds",
      "read_timeout_secs = 300",
      "",
      "# Re-publish attempts per failed termination message during EOF fan-out",
      "# 0 = abandon the remaining fan-out on the first failure",
      "fan_out_retries = 2",
      ""]

/-- The side that delivers results. -/
def output : List String :=
  titled "Result Delivery"
    ["",
      "[output]",
      "address = \"0.0.0.0:12350\"",
      "results_queue = \"results\"",
      "",
      "# Seconds to wait for a client's RESULT_ACK before moving on",
      "ack_timeout_secs = 30",
      "",
      "# Seconds a new result connection has to announce its client id",
      "announce_timeout_secs = 10",
      "",
      "# Termination signals expected per query on the results queue",
      "# (replica count of the last worker stage). Unlisted queries expect 1.",
      "[output.eof_counts]",
      "# \"argentinian-spanish-productions\" = 3",
      ""]

/-- The queues. -/
def broker : List String :=
  titled "Queue Broker"
    ["",
      "[broker]",
      "# Messages buffered per queue before publishers wait",
      "queue_capacity = 1024",
      ""]

/-- The process. -/
def daemon : List String :=
  titled "Daemon"
    ["",
      "[daemon]",
      "# Log level: off, error, warn, info, debug, trace",
      "log_level = \"info\"",
      "",
      "# Log rotation: daily, hourly, never",
      "log_rotation = \"daily\"",
      "",
      "# Log directory for background mode (default: platform data dir)",
      "# log_dir = \"/var/log/gateway\"",
      ""]

/-- What stands before the routes. -/
def routesOpening : List String :=
  titled "Routes"
    ["# eof_count = worker replicas reading the queue; each one gets its own EOF.",
      ""]

/-- A route, with an empty line after it. -/
def routeLines (r : Route) : List String :=
  ["[[routes]]",
    s!"query = \"{r.query.text}\"",
    s!"entity = \"{r.entity.configName}\"",
    s!"queue = \"{r.queue}\"",
    s!"eof_count = {r.endCount}",
    ""]

end Template

/-- The text of a new settings file. -/
def template : String :=
  String.join ((Template.opening ++ Template.input ++ Template.output ++ Template.broker ++
    Template.daemon ++ Template.routesOpening ++
    defaultRoutes.flatMap Template.routeLines).map (· ++ "\n"))

end QueryGateway.Config
