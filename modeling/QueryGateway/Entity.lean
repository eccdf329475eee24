import QueryGateway.Text.Blank
import QueryGateway.Text.Casing

/-! # Entities and names

Producers stream records of three kinds. Movies are the primary kind: one batch of them may feed
several queries, while a batch of credits or ratings feeds one.
-/

namespace QueryGateway

/-- The kinds of records. -/
inductive Entity where
  | movies
  | credits
  | ratings
  deriving DecidableEq, Repr

namespace Entity

/-- The kinds in the order in which their listeners are opened. -/
def all : List Entity :=
  [movies, credits, ratings]

/-- The name on the wire. -/
def name : Entity → String
  | movies => "MOVIES"
  | credits => "CREDITS"
  | ratings => "RATINGS"

/-- The name in a configuration file. -/
def configName : Entity → String
  | movies => "movies"
  | credits => "credits"
  | ratings => "ratings"

/-- The type of a message that ends the stream of this kind. -/
def endTag : Entity → String
  | movies => "EOF"
  | credits => "EOF_CREDITS"
  | ratings => "EOF_RATINGS"

/-- Batches of the primary kind may name several queries. -/
def isPrimary (e : Entity) : Bool :=
  e = movies

/-- A text that names no kind of records, in lower case and without surrounding blanks. -/
structure Unknown where
  text : String
  deriving DecidableEq, Repr

/-- The text of the error. -/
def Unknown.message (e : Unknown) : String :=
  "Invalid entity kind: " ++ e.text

/-- The kind that a text names, in any case and with blanks around it. -/
def parse (s : String) : Except Unknown Entity :=
  match Text.lower (Text.trim s) with
  | "movies" => .ok movies
  | "credits" => .ok credits
  | "ratings" => .ok ratings
  | other => .error ⟨other⟩

theorem parse_name (e : Entity) : parse e.name = .ok e := by
  cases e <;> rfl

end Entity

/-- The name of a query. -/
structure QueryId where
  text : String
  deriving DecidableEq, Repr, Hashable

/-- The name of a client, the same on every connection it opens. -/
structure ClientId where
  text : String
  deriving DecidableEq, Repr, Hashable

end QueryGateway
