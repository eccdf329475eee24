/-! # Comma-separated rows

A field that holds a comma, a quote or a line break stands in quotes, and a quote inside it is
written twice. Any other field stands as it is.
-/

namespace QueryGateway.Text.Csv

/-- A character that a field without quotes cannot hold. -/
def isSpecial (c : Char) : Bool :=
  c = ',' || c = '"' || c = '\n' || c = '\r'

/-- Writes every quote twice. -/
def doubleQuotes (cs : List Char) : List Char :=
  cs.flatMap fun c => if c = '"' then ['"', '"'] else [c]

/-- The written form of a field. -/
def encodeField (cs : List Char) : List Char :=
  if cs.any isSpecial then '"' :: doubleQuotes cs ++ ['"'] else cs

/-- The line of a row. -/
def row (fields : List String) : String :=
  ",".intercalate (fields.map fun field => String.ofList (encodeField field.toList))

end QueryGateway.Text.Csv
