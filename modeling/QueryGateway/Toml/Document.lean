import QueryGateway.Toml.Value

/-! # Assembly of a settings file

The lines of a settings file define tables, and values under keys of them. A document holds what
the lines so far have defined, and remembers how each table came about: that decides which later
lines may extend it.
-/

namespace QueryGateway.Toml

/-- How a table came about. -/
inductive Origin where
  /-- Only as the parent of a table with a header. -/
  | implied
  /-- By a dotted key. -/
  | dotted
  /-- By a header of its own. -/
  | defined
  deriving DecidableEq, Repr

/-- What a key of a document stands for. -/
inductive Node where
  | leaf (value : Value)
  | table (origin : Origin) (entries : List (String × Node))
  /-- The tables that one header in double brackets has opened, one after another. -/
  | tables (items : List (List (String × Node)))

/-- The keys of a table of a document. -/
abbrev Nodes := List (String × Node)

mutual

/-- The value of a node. -/
def Node.value : Node → Value
  | .leaf value => value
  | .table _ entries => .table (valuesOf entries)
  | .tables items => .array (tablesOf items)

/-- The values of the keys of a table. -/
def valuesOf : List (String × Node) → Entries
  | [] => []
  | (key, node) :: rest => (key, node.value) :: valuesOf rest

/-- The values of a list of tables. -/
def tablesOf : List (List (String × Node)) → List Value
  | [] => []
  | entries :: rest => .table (valuesOf entries) :: tablesOf rest

end

/-- The node of a key. -/
def node? (key : String) (nodes : Nodes) : Option Node :=
  (nodes.find? (·.1 = key)).map Prod.snd

/-- Gives a key that is there a new node. -/
def replaceNode (key : String) (node : Node) (nodes : Nodes) : Nodes :=
  nodes.map fun entry => if entry.1 = key then (key, node) else entry

/-- A key, with the keys of the tables that hold it, outermost first. -/
structure Key where
  path : List String
  name : String
  deriving DecidableEq, Repr

/-- Changes the table at the end of a path. Tables on the way that are not there yet are created,
those of a list of tables mean the last one. A dotted key may not lead through a table that has a
header of its own. -/
def alter (dotted : Bool) (change : Origin → Nodes → Except Error Nodes) :
    (path : List String) → Origin → Nodes → Except Error Nodes
  | [], origin, nodes => change origin nodes
  | key :: path, _, nodes =>
    match node? key nodes with
    | none => do
      let origin := if dotted then .dotted else .implied
      return nodes ++ [(key, .table origin (← alter dotted change path origin []))]
    | some (.leaf _) => .error (.redefined key)
    | some (.table origin inner) =>
      if dotted && origin = .defined then .error (.redefined key)
      else do return replaceNode key (.table origin (← alter dotted change path origin inner)) nodes
    | some (.tables items) =>
      match items.getLast? with
      | none => .error (.redefined key)
      | some last => do
        let last ← alter dotted change path .defined last
        return replaceNode key (.tables (items.dropLast ++ [last])) nodes

/-- A line of a settings file. -/
inductive Statement where
  | entry (key : Key) (value : Value)
  | table (key : Key)
  | arrayTable (key : Key)

/-- What the lines so far have defined, and the path of the table that entries go to. -/
structure Document where
  nodes : Nodes
  current : List String

namespace Document

/-- The document of no lines. -/
def empty : Document := ⟨[], []⟩

/-- Puts a value under a key that is not there. A table that dotted keys have made takes values
from dotted keys only, and every other table takes from a dotted key only what goes to a table of
that kind. -/
def putValue (key : Key) (value : Value) (origin : Origin) (nodes : Nodes) : Except Error Nodes :=
  if (origin = .dotted) = (key.path = []) then .error (.redefined key.name)
  else if (node? key.name nodes).isSome then .error (.redefined key.name)
  else .ok (nodes ++ [(key.name, .leaf value)])

/-- Opens a table under a key. A table that was only implied so far may be opened. -/
def openTable (name : String) (nodes : Nodes) : Except Error Nodes :=
  match node? name nodes with
  | none => .ok (nodes ++ [(name, .table .defined [])])
  | some (.table .implied inner) => .ok (replaceNode name (.table .defined inner) nodes)
  | some _ => .error (.redefined name)

/-- Opens one more table of a list of tables. -/
def openArrayTable (name : String) (nodes : Nodes) : Except Error Nodes :=
  match node? name nodes with
  | none => .ok (nodes ++ [(name, .tables [[]])])
  | some (.tables items) => .ok (replaceNode name (.tables (items ++ [[]])) nodes)
  | some _ => .error (.redefined name)

/-- Takes in a line. -/
def add (document : Document) : Statement → Except Error Document
  | .entry key value => do
    let put := alter true (putValue key value) key.path
    return { document with nodes := ← alter false put document.current .defined document.nodes }
  | .table key => do
    let nodes ← alter false (fun _ => openTable key.name) key.path .defined document.nodes
    return ⟨nodes, key.path ++ [key.name]⟩
  | .arrayTable key => do
    let nodes ← alter false (fun _ => openArrayTable key.name) key.path .defined document.nodes
    return ⟨nodes, key.path ++ [key.name]⟩

/-- The values of the document. -/
def entries (document : Document) : Entries := valuesOf document.nodes

end Document

/-- The values that lines define. -/
def assemble (statements : List Statement) : Except Error Entries := do
  let document ← statements.foldlM Document.add Document.empty
  return document.entries

end QueryGateway.Toml
