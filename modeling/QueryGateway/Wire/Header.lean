import QueryGateway.Entity
import QueryGateway.Text.Decimal
import QueryGateway.Text.Split

/-! # Batch headers

The first line of a producer's frame is a header of four fields, separated by commas: the queries
that the batch feeds, the kind of its records, the client, and the number of the batch or the
word `EOF`. Queries of the primary kind are separated by bars; the other kinds have one query,
which may contain a bar.
-/

namespace QueryGateway

/-- The word that stands for the end of a stream. -/
def endWord : String := "EOF"

/-- What a header announces: a batch with its number, or that the stream has ended. -/
inductive Marker where
  | batch (id : UInt64)
  | endOfStream
  deriving DecidableEq, Repr

/-- The last field of a header. -/
def Marker.text : Marker → String
  | batch id => toString id.toNat
  | endOfStream => endWord

/-- A header line. -/
structure Header where
  queries : List QueryId
  entity : Entity
  client : ClientId
  marker : Marker
  deriving DecidableEq, Repr

/-- The fields whose absence is reported by name. -/
inductive HeaderField where
  | entity
  | client
  | batch
  deriving DecidableEq, Repr

/-- The name of a field in messages. -/
def HeaderField.name : HeaderField → String
  | entity => "entity"
  | client => "client-id"
  | batch => "batch-id"

/-- Why a line is no header. -/
inductive HeaderError where
  | empty
  | missing (field : HeaderField)
  | unknownEntity (text : String)
  | invalidBatchId (text : String)
  | noQueries
  deriving DecidableEq, Repr

/-- The text of the error. -/
def HeaderError.message : HeaderError → String
  | empty => "Empty header"
  | missing field => s!"Header is missing the {field.name} field"
  | unknownEntity text => "Unknown entity kind: " ++ text
  | invalidBatchId text => "Invalid batch id: " ++ text
  | noQueries => "Header names no queries"

/-- The number of a batch that a text writes. -/
def batchId? (text : String) : Option UInt64 :=
  (Text.decimal? Text.maxWord64 text).map UInt64.ofNat

/-- The elements without repetitions, each at its first place. -/
def distinct [DecidableEq α] : List α → List α
  | [] => []
  | a :: rest => a :: (distinct rest).filter (· ≠ a)

namespace Header

/-- The first field. -/
def queryList (h : Header) : String :=
  "|".intercalate (h.queries.map QueryId.text)

/-- The header as a line. -/
def text (h : Header) : String :=
  h.queryList ++ "," ++ h.entity.name ++ "," ++ h.client.text ++ "," ++ h.marker.text

/-- The header ends a stream. -/
def endsStream (h : Header) : Bool :=
  h.marker = .endOfStream

/-- The queries that the first field of a header names. -/
def queriesOf (entity : Entity) (field : String) : List QueryId :=
  let names := if entity.isPrimary then Text.splitOn '|' field else [field]
  distinct ((names.map Text.trim).filter (· ≠ "") |>.map QueryId.mk)

/-- What the fields after the client say. Fields may follow the number of a batch, but if the last
one of them is `EOF` it counts. -/
def markerOf : List String → Except HeaderError Marker
  | [] => .error (.missing .batch)
  | number :: more =>
    if (number :: more).getLast? = some endWord then .ok .endOfStream
    else (batchId? number).elim (.error (.invalidBatchId number)) (.ok ∘ .batch)

/-- The header that the trimmed fields of a line form. -/
def ofFields : List String → Except HeaderError Header
  | queries :: entity :: rest => do
    if entity = "" then throw (.missing .entity)
    let kind ← (Entity.parse entity).mapError fun _ => .unknownEntity entity
    match rest with
    | client :: rest =>
      if client = "" then throw (.missing .client)
      let marker ← markerOf rest
      let ids := queriesOf kind queries
      if ids = [] then throw .noQueries
      return ⟨ids, kind, ⟨client⟩, marker⟩
    | [] => throw (.missing .client)
  | _ => .error (.missing .entity)

/-- Reads a header line. Blanks around the line and around each field do not count. -/
def parse (line : String) : Except HeaderError Header :=
  let line := Text.trim line
  if line = "" then .error .empty
  else ofFields ((Text.splitOn ',' line).map Text.trim)

end Header

end QueryGateway
