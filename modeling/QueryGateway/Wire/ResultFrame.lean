import QueryGateway.Wire.Header

/-! # Result frames

A result frame has the query on its first line and the rows after it. `EOF` in place of the rows
says that the query has ended.
-/

namespace QueryGateway

/-- What follows the query in a result frame. -/
inductive ResultBody where
  | rows (text : String)
  | endOfStream
  deriving DecidableEq, Repr

/-- A frame of results of one query. -/
structure ResultFrame where
  query : QueryId
  body : ResultBody
  deriving DecidableEq, Repr

namespace ResultFrame

/-- The frame says that its query has ended. -/
def endsStream (f : ResultFrame) : Bool :=
  f.body = .endOfStream

/-- The payload. -/
def text (f : ResultFrame) : String :=
  f.query.text ++ "\n" ++ match f.body with
    | .rows rows => rows
    | .endOfStream => endWord

/-- Reads a payload. A frame without a query is none. -/
def parse? (payload : String) : Option ResultFrame :=
  let (first, rest) := (Text.cut '\n' payload).getD (payload, "")
  let query := Text.trim first
  if query = "" then none
  else some ⟨⟨query⟩, if Text.trim rest = endWord then .endOfStream else .rows rest⟩

end ResultFrame

end QueryGateway
