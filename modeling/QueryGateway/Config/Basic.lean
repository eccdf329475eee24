import QueryGateway.Routing.Multiplicity

/-! # Settings

The settings of the gateway, with what holds where nothing is set: a listener for each kind of
records, one that hands out client names, one for results, and routes for the five known queries.
-/

namespace QueryGateway

/-- Settings of the side that takes records in. -/
structure Config.Input where
  moviesAddress : String := "0.0.0.0:12345"
  creditsAddress : String := "0.0.0.0:12346"
  ratingsAddress : String := "0.0.0.0:12347"
  /-- Where names are handed out, if they are. -/
  connectionsAddress : Option String := some "0.0.0.0:12344"
  /-- How long a producer may send nothing, in seconds. -/
  readTimeout : Nat := 300
  /-- How often a failed end-of-stream publish is repeated. -/
  fanOutRetries : UInt32 := 2
  deriving DecidableEq, Repr

/-- The listener of a kind of records. -/
def Config.Input.address (input : Config.Input) : Entity → String
  | .movies => input.moviesAddress
  | .credits => input.creditsAddress
  | .ratings => input.ratingsAddress

/-- Settings of the side that delivers results. -/
structure Config.Output where
  address : String := "0.0.0.0:12350"
  resultsQueue : String := "results"
  /-- How long a reply of a client is waited for, in seconds. -/
  ackTimeout : Nat := 30
  /-- How long a new connection may take to say whose it is, in seconds. -/
  announceTimeout : Nat := 10
  /-- How many end-of-stream messages come back for a query, in the order of the queries. -/
  endCounts : List (String × Nat) := []
  deriving DecidableEq, Repr

/-- Settings of the queues. -/
structure Config.Queues where
  /-- How many messages a queue holds. -/
  capacity : Nat := 1024
  deriving DecidableEq, Repr

/-- Settings of the process. -/
structure Config.Process where
  logLevel : String := "info"
  logRotation : String := "daily"
  logDirectory : Option String := none
  deriving DecidableEq, Repr

namespace Config

/-- The queries that routes are set for by default. -/
def knownQueries : List QueryId :=
  [⟨"argentinian-spanish-productions"⟩, ⟨"top-investing-countries"⟩,
    ⟨"top-argentinian-movies-by-rating"⟩, ⟨"top-argentinian-actors"⟩, ⟨"sentiment-analysis"⟩]

/-- The queue that filters the movies for a query. -/
def filterQueue (query : QueryId) : String :=
  "filter_" ++ query.text.map fun c => if c = '-' then '_' else c

/-- The routes where none are set. -/
def defaultRoutes : List Route :=
  knownQueries.map (fun query => ⟨query, .movies, filterQueue query, 1⟩) ++
    [⟨⟨"top-argentinian-actors"⟩, .credits, "join_top_argentinian_actors", 1⟩,
      ⟨⟨"top-argentinian-movies-by-rating"⟩, .ratings, "join_top_argentinian_movies_by_rating", 1⟩]

end Config

/-- All settings. -/
structure Config where
  input : Config.Input := {}
  output : Config.Output := {}
  queues : Config.Queues := {}
  process : Config.Process := {}
  routes : List Route := Config.defaultRoutes
  deriving DecidableEq, Repr

namespace Config

/-- The settings where nothing is set. -/
def default : Config := {}

/-- The tables that the routes and the counts of the results queue form. -/
def tables (c : Config) : Except RoutingError Tables :=
  Tables.build c.routes (c.output.endCounts.map fun (query, count) => (⟨query⟩, count))

end Config

end QueryGateway
