import QueryGateway.Cli.Results
import QueryGateway.Text.Decimal

/-! # Arguments of the command line

Options may stand anywhere after the command they belong to, `--config` also before it. The value
of an option follows it, or stands behind an equals sign. After `--` there are no more options. An
option is given at most once, a query as often as needed.
-/

namespace QueryGateway.Cli

/-- What the program is asked to do. -/
inductive Task where
  | serve (foreground : Bool)
  | produce (options : ProduceOptions)
  | results (options : ResultsOptions)
  | showSettings (json : Bool)
  | createSettings (force : Bool)
  deriving DecidableEq, Repr

/-- The arguments of the program, understood. -/
structure Invocation where
  /-- The settings file that is named. -/
  config : Option String
  task : Task
  deriving DecidableEq, Repr

/-- Which options a command has. Each goes by the name after its dashes. -/
structure Spec where
  flags : List String
  /-- The options with a value. -/
  valued : List String
  /-- The options with a value that are also known by one letter. -/
  letters : List (Char × String)
  deriving DecidableEq, Repr

/-- Arguments taken apart. -/
structure Taken where
  flags : List String
  values : List (String × String)
  positions : List String
  deriving DecidableEq, Repr

namespace Taken

/-- No arguments. -/
def empty : Taken := ⟨[], [], []⟩

/-- Adds a flag in front. -/
def addFlag (name : String) (t : Taken) : Taken := { t with flags := name :: t.flags }

/-- Adds an option with its value in front. -/
def addValue (name value : String) (t : Taken) : Taken :=
  { t with values := (name, value) :: t.values }

/-- Adds an argument in front. -/
def addPosition (value : String) (t : Taken) : Taken :=
  { t with positions := value :: t.positions }

/-- The values of an option. -/
def all (t : Taken) (name : String) : List String :=
  (t.values.filter (·.1 = name)).map Prod.snd

/-- The value of an option, if it is given. -/
def value? (t : Taken) (name : String) : Option String := (t.all name).head?

/-- No flag and no option is given twice, queries apart. -/
def isSingle (t : Taken) : Bool :=
  (t.flags ++ (t.values.map Prod.fst).filter (· ≠ "query")).Nodup

end Taken

/-- What an argument looks like. -/
inductive Shape where
  /-- The end of the options. -/
  | stop
  | position
  | option (name : String) (value : Option String)

/-- The shape of an argument; the letter of an option stands for its name. -/
def Spec.shape (spec : Spec) (argument : String) : Option Shape :=
  match argument.toList with
  | ['-', '-'] => some .stop
  | '-' :: '-' :: name =>
    let (name, value) := match Text.cutList '=' name with
      | some (name, value) => (name, some (String.ofList value))
      | none => (name, none)
    some (.option (String.ofList name) value)
  | '-' :: letter :: rest =>
    (spec.letters.lookup letter).map fun name =>
      .option name <| match rest with
        | [] => none
        | '=' :: value => some (String.ofList value)
        | value => some (String.ofList value)
  | _ => some .position

/-- A text that can be the value of the option before it. -/
def isValue (argument : String) : Bool :=
  match argument.toList with
  | '-' :: _ :: _ => false
  | _ => true

/-- Takes arguments apart. -/
def Spec.take (spec : Spec) : List String → Option Taken
  | [] => some .empty
  | argument :: rest =>
    match spec.shape argument with
    | none => none
    | some .stop => some { Taken.empty with positions := rest }
    | some .position => (spec.take rest).map (·.addPosition argument)
    | some (.option name (some value)) =>
      if spec.valued.contains name then (spec.take rest).map (·.addValue name value) else none
    | some (.option name none) =>
      if spec.flags.contains name then (spec.take rest).map (·.addFlag name)
      else if spec.valued.contains name then
        match rest with
        | value :: rest =>
          if isValue value then (spec.take rest).map (·.addValue name value) else none
        | [] => none
      else none

/-- A command with these options. -/
def spec (flags valued : List String) : Spec :=
  ⟨flags, "config" :: valued, if valued.contains "query" then [('q', "query")] else []⟩

/-- Takes the arguments of a command apart; nothing may be given twice. -/
def take (flags valued : List String) (arguments : List String) : Option Taken :=
  ((spec flags valued).take arguments).filter Taken.isSingle

/-- The queries that are named, of which there must be one. -/
def queriesOf (t : Taken) : Option (List QueryId) :=
  match t.all "query" with
  | [] => none
  | queries => some (queries.map QueryId.mk)

/-- Understands the arguments after `produce`. -/
def produceTask (t : Taken) : Option Task := do
  let queries ← queriesOf t
  let batchSize ← Text.decimal? Text.maxWord64 ((t.value? "batch-size").getD "500")
  match t.positions with
  | [entity, file] =>
    let entity ← (Entity.parse entity).toOption
    if file = "" then none
    else return .produce {
      entity, file, queries, batchSize
      client := (t.value? "client-id").map ClientId.mk
      address := t.value? "address"
      skipHeader := t.flags.contains "skip-header" }
  | _ => none

/-- Understands the arguments after `results`. -/
def resultsTask (t : Taken) : Option Task := do
  let queries ← queriesOf t
  match t.positions with
  | [client] =>
    return .results {
      queries
      client := ⟨client⟩
      address := t.value? "address"
      json := t.flags.contains "json" }
  | _ => none

/-- A task without arguments of its own. -/
def plainTask (task : Taken → Task) (t : Taken) : Option Task :=
  if t.positions = [] then some (task t) else none

/-- Understands a command and what follows it. -/
def taskOf : List String → Option (Taken × Task)
  | "serve" :: rest => do
    let t ← take ["foreground"] [] rest
    return (t, ← plainTask (fun t => .serve (t.flags.contains "foreground")) t)
  | "produce" :: rest => do
    let t ← take ["skip-header"] ["query", "client-id", "address", "batch-size"] rest
    return (t, ← produceTask t)
  | "results" :: rest => do
    let t ← take ["json"] ["query", "address"] rest
    return (t, ← resultsTask t)
  | "config" :: "show" :: rest => do
    let t ← take ["json"] [] rest
    return (t, ← plainTask (fun t => .showSettings (t.flags.contains "json")) t)
  | "config" :: "init" :: rest => do
    let t ← take ["force"] [] rest
    return (t, ← plainTask (fun t => .createSettings (t.flags.contains "force")) t)
  | _ => none

/-- Splits off a settings file that is named before the command. -/
def leadingConfig : List String → Option String × List String
  | "--config" :: path :: rest => (some path, rest)
  | arguments =>
    match arguments with
    | first :: rest =>
      match Text.cut '=' first with
      | some ("--config", path) => (some path, rest)
      | _ => (none, arguments)
    | [] => (none, [])

/-- Understands the arguments of the program. -/
def Invocation.parse (arguments : List String) : Option Invocation := do
  let (leading, rest) := leadingConfig arguments
  let (taken, task) ← taskOf rest
  match leading, taken.value? "config" with
  | some _, some _ => none
  | config, other =>
    let config := config.or other
    if config = some "" then none else return ⟨config, task⟩

end QueryGateway.Cli
