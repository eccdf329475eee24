import QueryGateway.Entity
import QueryGateway.Table
import QueryGateway.Text.Utf8

/-! # Queue messages

A message is a body of bytes with named headers. Batches and end-of-stream messages go to the
workers; rows and end-of-stream messages of a client's query come back.
-/

namespace QueryGateway

/-- A message on a queue. -/
structure Message where
  headers : Table String String
  body : Bytes

/-- The headers that the gateways write and read. -/
inductive MessageHeader where
  | query
  | client
  | batch
  | message
  | type
  deriving DecidableEq, Repr

/-- The name of a header. -/
def MessageHeader.name : MessageHeader → String
  | query => "Query"
  | client => "ClientID"
  | batch => "BatchID"
  | message => "MessageID"
  | type => "type"

/-- Why a message of the results queue cannot be delivered. -/
inductive MessageError where
  | missingHeader (header : MessageHeader)
  | invalidBody
  deriving DecidableEq, Repr

/-- The text of the error. -/
def MessageError.message : MessageError → String
  | missingHeader header => s!"Message is missing the {header.name} header"
  | invalidBody => "Message body is not valid UTF-8"

/-- What a message of the results queue says about its query. -/
inductive ResultKind where
  | rows
  | endOfStream
  deriving DecidableEq, Repr

/-- What the headers of a message of the results queue say. -/
structure ResultMeta where
  client : ClientId
  query : QueryId
  kind : ResultKind
  deriving DecidableEq, Repr

/-- The `type` of an end-of-stream message on the results queue. -/
def resultEndType : String := "EOF"

namespace Message

/-- A message without headers. -/
def raw (body : Bytes) : Message := ⟨.empty, body⟩

/-- Sets a header. -/
def withHeader (m : Message) (key value : String) : Message :=
  { m with headers := m.headers.insert key value }

/-- Sets a header that the gateways know. -/
def set (m : Message) (header : MessageHeader) (value : String) : Message :=
  m.withHeader header.name value

/-- The value of a header. -/
def header? (m : Message) (key : String) : Option String :=
  m.headers.get? key

/-- A batch of rows for the workers of one query. -/
def batch (query : QueryId) (client : ClientId) (id : UInt64) (entity : Entity) (body : Bytes) :
    Message :=
  let number := toString id.toNat
  (((((raw body).set .query query.text).set .client client.text).set .message number).set
    .batch number).set .type entity.name

/-- Tells one worker of a query that the stream has ended. -/
def endOfStream (query : QueryId) (client : ClientId) (entity : Entity) : Message :=
  (((raw []).set .query query.text).set .client client.text).set .type entity.endTag

/-- Rows that a worker found for a client's query. -/
def result (query : QueryId) (client : ClientId) (rows : Bytes) : Message :=
  ((raw rows).set .query query.text).set .client client.text

/-- Tells that one worker has no more rows for a client's query. -/
def resultEnd (query : QueryId) (client : ClientId) : Message :=
  (result query client []).set .type resultEndType

/-- The value of a header that must be there and not be empty. -/
def required (m : Message) (header : MessageHeader) : Except MessageError String :=
  match m.header? header.name with
  | some value => if value = "" then .error (.missingHeader header) else .ok value
  | none => .error (.missingHeader header)

/-- Reads the headers of a message of the results queue. Only the `type` of an end-of-stream
message says so; all other messages carry rows. -/
def resultMeta (m : Message) : Except MessageError ResultMeta := do
  let client ← m.required .client
  let query ← m.required .query
  let kind := if m.header? MessageHeader.type.name = some resultEndType then .endOfStream else .rows
  return ⟨⟨client⟩, ⟨query⟩, kind⟩

/-- The body as a text. -/
def bodyText (m : Message) : Except MessageError String :=
  (Bytes.text? m.body).elim (.error .invalidBody) .ok

end Message

end QueryGateway
