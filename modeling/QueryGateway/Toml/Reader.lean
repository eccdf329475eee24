import QueryGateway.Toml.Document
import QueryGateway.Toml.Quoted

/-! # Reading a settings file

A file is a list of lines: a key with its value, a header in brackets, a header in double
brackets, or nothing, each with a comment after it. An array or a table in braces may go on over
several lines.
-/

namespace QueryGateway.Toml

/-- Skips blanks. -/
def skipSpaces (cs : List Char) : List Char := cs.dropWhile isSpace

/-- A character before the end of the line. -/
def isInLine (c : Char) : Bool := c ≠ '\n' && c ≠ '\r'

/-- Skips a comment, if there is one. -/
def skipComment : List Char → Except Error (List Char)
  | '#' :: rest =>
    if (rest.takeWhile isInLine).any isControl then .error (.malformed "no control character")
    else .ok (rest.dropWhile isInLine)
  | cs => .ok cs

/-- Skips blanks, line breaks and comments, as long as the fuel lasts. -/
def skipGapsUpTo : (fuel : Nat) → List Char → Except Error (List Char)
  | 0, cs => .ok cs
  | fuel + 1, cs => do
    let cs ← skipComment (skipSpaces cs)
    match skipBreak? cs with
    | some rest => skipGapsUpTo fuel rest
    | none => return cs

/-- Skips blanks, line breaks and comments. -/
def skipGaps (cs : List Char) : Except Error (List Char) := skipGapsUpTo (cs.length + 1) cs

/-- Reads one part of a key. -/
def keyPart (cs : List Char) : Except Error (String × List Char) :=
  if cs.head? = some '"' then quoted false '"' cs
  else if cs.head? = some '\'' then quoted false '\'' cs
  else
    let name := cs.takeWhile isKeyChar
    if name.isEmpty then .error (.malformed "a key")
    else .ok (String.ofList name, cs.dropWhile isKeyChar)

/-- Reads the parts of a key, which points separate; `path` holds those before, backwards. -/
def keyParts : (fuel : Nat) → (path : List String) → List Char → Except Error (Key × List Char)
  | 0, _, _ => .error (.malformed "a key")
  | fuel + 1, path, cs => do
    let (name, rest) ← keyPart (skipSpaces cs)
    match skipSpaces rest with
    | '.' :: rest => keyParts fuel (name :: path) rest
    | rest => return (⟨path.reverse, name⟩, rest)

/-- Reads a key and the blanks after it. -/
def key (cs : List Char) : Except Error (Key × List Char) := keyParts (cs.length + 1) [] cs

/-- A reader of the value at the start of a text. -/
abbrev ValueReader := List Char → Except Error (Value × List Char)

/-- Reads the rest of an array; `read` holds the items before, backwards. -/
def arrayItems (item : ValueReader) :
    (fuel : Nat) → (read : List Value) → List Char → Except Error (Value × List Char)
  | 0, _, _ => .error (.malformed "a closing bracket")
  | fuel + 1, read, cs => do
    match ← skipGaps cs with
    | ']' :: rest => return (.array read.reverse, rest)
    | cs =>
      let (value, rest) ← item cs
      match ← skipGaps rest with
      | ',' :: rest => arrayItems item fuel (value :: read) rest
      | ']' :: rest => return (.array (value :: read).reverse, rest)
      | _ => throw (.malformed "a comma or a closing bracket")

/-- Reads a key and its value. -/
def entry (value : ValueReader) (cs : List Char) : Except Error (Statement × List Char) := do
  match ← key cs with
  | (key, '=' :: rest) =>
    let (value, rest) ← value (skipSpaces rest)
    return (.entry key value, rest)
  | _ => throw (.malformed "an equals sign")

/-- Reads the rest of a table in braces; `read` holds the entries before, backwards. -/
def tableEntries (value : ValueReader) :
    (fuel : Nat) → (read : List Statement) → List Char → Except Error (Value × List Char)
  | 0, _, _ => .error (.malformed "a closing brace")
  | fuel + 1, read, cs => do
    match ← skipGaps cs with
    | '}' :: rest => return (.table (← assemble read.reverse), rest)
    | cs =>
      let (statement, rest) ← entry value cs
      match ← skipGaps rest with
      | ',' :: rest => tableEntries value fuel (statement :: read) rest
      | '}' :: rest => return (.table (← assemble (statement :: read).reverse), rest)
      | _ => throw (.malformed "a comma or a closing brace")

/-- Reads a value in which arrays and tables in braces lie at most `depth` deep in one another. -/
def value : (depth : Nat) → ValueReader
  | _, '"' :: rest => (quoted true '"' ('"' :: rest)).map fun (text, rest) => (.string text, rest)
  | _, '\'' :: rest => (quoted true '\'' ('\'' :: rest)).map fun (text, rest) => (.string text, rest)
  | 0, '[' :: _ => .error (.malformed "less nesting")
  | 0, '{' :: _ => .error (.malformed "less nesting")
  | depth + 1, '[' :: rest => arrayItems (value depth) (rest.length + 1) [] rest
  | depth + 1, '{' :: rest => tableEntries (value depth) (rest.length + 1) [] rest
  | _, cs => do
    let (text, rest) := takeScalar cs
    return (← scalar text, rest)

/-- How deep arrays and tables in braces may lie in one another. -/
def maxDepth : Nat := 80

/-- Reads a line that is not empty, without its comment. -/
def statement (cs : List Char) : Except Error (Statement × List Char) :=
  match cs with
  | '[' :: '[' :: rest => do
    match ← key rest with
    | (key, ']' :: ']' :: rest) => return (.arrayTable key, rest)
    | _ => throw (.malformed "two closing brackets")
  | '[' :: rest => do
    match ← key rest with
    | (key, ']' :: rest) => return (.table key, rest)
    | _ => throw (.malformed "a closing bracket")
  | cs => entry (value maxDepth) cs

/-- Reads the lines of a file; `read` holds those before, backwards. -/
def statementsUpTo :
    (fuel : Nat) → (read : List Statement) → List Char → Except Error (List Statement)
  | 0, _, _ => .error (.malformed "the end")
  | fuel + 1, read, cs => do
    match ← skipGaps cs with
    | [] => return read.reverse
    | cs =>
      let (statement, rest) ← statement cs
      match ← skipComment (skipSpaces rest) with
      | [] => return (statement :: read).reverse
      | rest =>
        match skipBreak? rest with
        | some rest => statementsUpTo fuel (statement :: read) rest
        | none => throw (.malformed "the end of the line")

/-- Reads the lines of a file. A byte order mark before them is skipped. -/
def statements (text : String) : Except Error (List Statement) :=
  let cs := text.toList
  let cs := if cs.head? = some '\uFEFF' then cs.drop 1 else cs
  statementsUpTo (cs.length + 1) [] cs

/-- Reads a settings file. -/
def read (text : String) : Except Error Entries := do
  assemble (← statements text)

end QueryGateway.Toml
