import QueryGateway.Entity
import QueryGateway.Text.Csv
import QueryGateway.Text.Split

/-! # Projection of records

Producers send records whose fields are separated by bars. Workers get comma-separated rows with
only the columns they use, under a line of column names. A record that is too short, or whose
required fields are not all filled in, is dropped.
-/

namespace QueryGateway

/-- A column that workers get: where it stands in a record, and its name. -/
structure Column where
  position : Nat
  name : String
  deriving DecidableEq, Repr

/-- The shape of the records of one kind. -/
structure Schema where
  /-- How many fields a record has at least. -/
  width : Nat
  columns : List Column
  /-- The positions that must not be empty. -/
  required : List Nat
  deriving DecidableEq, Repr

/-- The shape of the records of each kind. -/
def Schema.of : Entity → Schema
  | .movies =>
    ⟨8, [⟨0, "id"⟩, ⟨1, "title"⟩, ⟨2, "overview"⟩, ⟨3, "budget"⟩, ⟨4, "revenue"⟩, ⟨5, "genres"⟩,
      ⟨6, "production_countries"⟩, ⟨7, "release_date"⟩], [0, 1, 7]⟩
  | .credits => ⟨3, [⟨0, "id"⟩, ⟨1, "cast"⟩], [0]⟩
  | .ratings => ⟨4, [⟨1, "movie_id"⟩, ⟨2, "rating"⟩], [1]⟩

namespace Schema

/-- The fields of a record, trimmed. -/
def fields (record : String) : List String :=
  (Text.splitOn '|' record).map Text.trim

/-- A record with all fields, the required ones filled in. -/
def accepts (s : Schema) (fields : List String) : Bool :=
  s.width ≤ fields.length && s.required.all fun i => fields[i]?.getD "" ≠ ""

/-- The fields that workers get. -/
def select (s : Schema) (fields : List String) : List String :=
  s.columns.map fun column => fields[column.position]?.getD ""

/-- The line of column names. -/
def names (s : Schema) : List String :=
  s.columns.map Column.name

end Schema

/-- The columns that workers get of one kind of records. -/
def columnNames (entity : Entity) : List String :=
  (Schema.of entity).names

/-- A batch as workers get it. -/
structure Projection where
  /-- The line of column names and a line for every record kept. -/
  body : String
  kept : Nat
  dropped : Nat
  deriving DecidableEq, Repr

/-- The rows of the records that are kept, in order. -/
def projectRows (entity : Entity) (records : List String) : List (List String) :=
  let schema := Schema.of entity
  ((records.map Schema.fields).filter schema.accepts).map schema.select

/-- Turns records into rows for workers. -/
def project (entity : Entity) (records : List String) : Projection :=
  let rows := projectRows entity records
  { body := "\n".intercalate ((columnNames entity :: rows).map Text.Csv.row)
    kept := rows.length
    dropped := records.length - rows.length }

end QueryGateway
