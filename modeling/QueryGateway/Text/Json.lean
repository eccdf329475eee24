import QueryGateway.Text.Quoted

/-! # JSON texts

A JSON text is written on one line, or with every member on a line of its own.
-/

namespace QueryGateway

/-- A JSON value. The members of an object are written in their order. -/
inductive Json where
  | boolean (value : Bool)
  | number (value : Int)
  | string (text : String)
  | array (items : List Json)
  | object (members : List (String × Json))
  deriving Repr

namespace Json

/-- A character between quotes. -/
def quoteChar (c : Char) : List Char :=
  match c with
  | '"' => ['\\', '"']
  | '\\' => ['\\', '\\']
  | '\x08' => ['\\', 'b']
  | '\t' => ['\\', 't']
  | '\n' => ['\\', 'n']
  | '\x0c' => ['\\', 'f']
  | '\r' => ['\\', 'r']
  | c =>
    if c.toNat < 0x20 then
      let digits := Text.hexDigits c.toNat
      '\\' :: 'u' :: List.replicate (4 - digits.length) '0' ++ digits
    else [c]

/-- A text in quotes. -/
def quote (s : String) : String :=
  String.ofList ('"' :: s.toList.flatMap quoteChar ++ ['"'])

mutual

/-- The value on one line. -/
def compact : Json → String
  | boolean b => if b then "true" else "false"
  | number n => toString n
  | string text => quote text
  | array items => "[" ++ ",".intercalate (compactItems items) ++ "]"
  | object members => "\x7b" ++ ",".intercalate (compactMembers members) ++ "\x7d"

/-- Every item on one line. -/
def compactItems : List Json → List String
  | [] => []
  | item :: rest => item.compact :: compactItems rest

/-- Every member on one line. -/
def compactMembers : List (String × Json) → List String
  | [] => []
  | (key, value) :: rest => (quote key ++ ":" ++ value.compact) :: compactMembers rest

end

/-- Parts between brackets, each on a line of its own, two blanks deeper than the brackets. -/
def bracketed (indent opening closing : String) (parts : List String) : String :=
  if parts = [] then opening ++ closing
  else
    opening ++ "\n" ++ ",\n".intercalate (parts.map ((indent ++ "  ") ++ ·)) ++
      "\n" ++ indent ++ closing

mutual

/-- The value with every member on a line of its own; the lines after the first are indented. -/
def prettyFrom (indent : String) : Json → String
  | array items => bracketed indent "[" "]" (prettyItems (indent ++ "  ") items)
  | object members => bracketed indent "\x7b" "\x7d" (prettyMembers (indent ++ "  ") members)
  | value => value.compact

/-- Every item at this indent. -/
def prettyItems (indent : String) : List Json → List String
  | [] => []
  | item :: rest => item.prettyFrom indent :: prettyItems indent rest

/-- Every member at this indent. -/
def prettyMembers (indent : String) : List (String × Json) → List String
  | [] => []
  | (key, value) :: rest =>
    (quote key ++ ": " ++ value.prettyFrom indent) :: prettyMembers indent rest

end

/-- The value with every member on a line of its own. -/
def pretty (j : Json) : String := j.prettyFrom ""

end Json

end QueryGateway
