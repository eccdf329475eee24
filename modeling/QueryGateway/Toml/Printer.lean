import QueryGateway.Toml.Quoted

/-! # Writing a settings file

A text is written in the plainest quotes that hold it: double quotes, then single quotes, then
three double quotes, then three single quotes; only what fits in none of them is escaped. A table
stands under a header of its own, after the values beside it.
-/

namespace QueryGateway.Toml

/-- The length of the longest run of a character. -/
def longestRun (c : Char) (cs : List Char) : Nat :=
  (cs.foldl (fun (run, longest) d =>
    let run := if d = c then run + 1 else 0
    (run, max run longest)) (0, 0)).2

/-- A character that can only be written as an escape. -/
def needsEscape (c : Char) : Bool := isControl c && c ≠ '\n'

/-- A number in base 16, upper case, with at least four digits. -/
def fourDigits (n : Nat) : List Char :=
  let digits := (Nat.toDigits 16 n).map Char.toUpper
  List.replicate (4 - digits.length) '0' ++ digits

/-- A character between double quotes. -/
def escaped (c : Char) : List Char :=
  match c with
  | '\x08' => ['\\', 'b']
  | '\t' => ['\\', 't']
  | '\n' => ['\\', 'n']
  | '\x0c' => ['\\', 'f']
  | '\r' => ['\\', 'r']
  | '"' => ['\\', '"']
  | '\\' => ['\\', '\\']
  | c => if needsEscape c then '\\' :: 'u' :: fourDigits c.toNat else [c]

/-- Characters between three double quotes. Line breaks stand for themselves, and so do up to two
quotes in a row, `quotes` of which came before. -/
def escapedLines (quotes : Nat) : List Char → List Char
  | [] => []
  | '\n' :: cs => '\n' :: escapedLines 0 cs
  | '"' :: cs => if quotes < 2 then '"' :: escapedLines (quotes + 1) cs else '\\' :: '"' :: escapedLines 0 cs
  | c :: cs => escaped c ++ escapedLines 0 cs

/-- A text in double quotes. -/
def basicText (cs : List Char) : List Char := '"' :: cs.flatMap escaped ++ ['"']

/-- A text in single quotes. -/
def literalText (cs : List Char) : List Char := '\'' :: cs ++ ['\'']

/-- A text in three quotes. A text of several lines starts on a line of its own. -/
def blockText (quote : Char) (several : Bool) (body : List Char) : List Char :=
  let quotes := [quote, quote, quote]
  quotes ++ (if several then ['\n'] else []) ++ body ++ quotes

/-- Plain double quotes can hold the text. -/
def fitsBasic (cs : List Char) : Bool :=
  !cs.any needsEscape && !cs.contains '\\' && !cs.contains '"' && !cs.contains '\n'

/-- Single quotes can hold the text. -/
def fitsLiteral (cs : List Char) : Bool :=
  !cs.any needsEscape && !cs.contains '\'' && !cs.contains '\n'

/-- A text as a value. -/
def textValue (s : String) : String :=
  let cs := s.toList
  let several := cs.contains '\n'
  let plain := !cs.any needsEscape
  String.ofList <|
    if fitsBasic cs then basicText cs
    else if fitsLiteral cs then literalText cs
    else if plain && !cs.contains '\\' && longestRun '"' cs ≤ 2 then
      blockText '"' several (escapedLines 0 cs)
    else if plain && longestRun '\'' cs ≤ 2 then blockText '\'' several cs
    else if several then blockText '"' several (escapedLines 0 cs)
    else basicText cs

/-- A part of a key. -/
def keyText (s : String) : String :=
  let cs := s.toList
  if cs ≠ [] && cs.all isKeyChar then s
  else String.ofList (if !fitsBasic cs && fitsLiteral cs then literalText cs else basicText cs)

/-- The parts of a key, with points between them. -/
def pathText (path : List String) : String :=
  ".".intercalate (path.map keyText)

mutual

/-- A value on one line. -/
def valueText : Value → String
  | .string text => textValue text
  | .integer n => toString n
  | .float text => text
  | .boolean b => if b then "true" else "false"
  | .dateTime text => text
  | .array items => "[" ++ ", ".intercalate (itemTexts items) ++ "]"
  | .table entries => "\x7b" ++ ", ".intercalate (entryTexts entries) ++ "\x7d"

/-- Values on one line each. -/
def itemTexts : List Value → List String
  | [] => []
  | value :: rest => valueText value :: itemTexts rest

/-- Keys with their values. -/
def entryTexts : List (String × Value) → List String
  | [] => []
  | (key, value) :: rest => (keyText key ++ " = " ++ valueText value) :: entryTexts rest

end

/-- A value with keys of its own. -/
def Value.isTable : Value → Bool
  | .table _ => true
  | _ => false

/-- A value that has headers of its own: a table, or a list of tables. -/
def Value.hasHeader : Value → Bool
  | .table _ => true
  | .array items => !items.isEmpty && items.all Value.isTable
  | _ => false

/-- The lines of the values that stand right under a header. -/
def bodyText (entries : Entries) : String :=
  String.join ((entryTexts (entries.filter (!·.2.hasHeader))).map (· ++ "\n"))

mutual

/-- The tables among the values of the table at `path`, each with its header. -/
def tableTexts (path : List String) : List (String × Value) → List String
  | [] => []
  | (key, .table inner) :: rest =>
    (("[" ++ pathText (path ++ [key]) ++ "]\n" ++ bodyText inner) ::
      tableTexts (path ++ [key]) inner) ++ tableTexts path rest
  | (key, .array items) :: rest =>
    (if (Value.array items).hasHeader then arrayTableTexts (path ++ [key]) items else []) ++
      tableTexts path rest
  | _ :: rest => tableTexts path rest

/-- The tables of a list, each with its header. -/
def arrayTableTexts (path : List String) : List Value → List String
  | [] => []
  | .table inner :: rest =>
    (("[[" ++ pathText path ++ "]]\n" ++ bodyText inner) :: tableTexts path inner) ++
      arrayTableTexts path rest
  | _ :: rest => arrayTableTexts path rest

end

/-- The text of a settings file. -/
def print (entries : Entries) : String :=
  let body := bodyText entries
  "\n".intercalate ((if body = "" then [] else [body]) ++ tableTexts [] entries)

end QueryGateway.Toml
