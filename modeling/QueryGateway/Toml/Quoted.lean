import QueryGateway.Toml.Scalar

/-! # Quoted text of a settings file

Text in double quotes has escapes, text in single quotes has none. Three quotes open a text of
several lines: a line break right after them does not count, and one or two quotes may stand
before the three that close it.
-/

namespace QueryGateway.Toml

/-- A character that no text may hold as it is. Tabs may stand everywhere. -/
def isControl (c : Char) : Bool :=
  (c.toNat < 0x20 && c ≠ '\t') || c.toNat = 0x7F

/-- Reads the digits of an escaped character. -/
def escapedChar (width : Nat) (cs : List Char) : Except Error (Char × List Char) :=
  let digits := cs.take width
  let n := groupedValue 16 digits
  if digits.length = width && digits.all (hexDigit? · |>.isSome) && n.isValidChar then
    .ok (Char.ofNat n, cs.drop width)
  else .error (.malformed "the number of a character")

/-- Reads what follows a backslash. -/
def escape : List Char → Except Error (Char × List Char)
  | 'b' :: cs => .ok ('\x08', cs)
  | 't' :: cs => .ok ('\t', cs)
  | 'n' :: cs => .ok ('\n', cs)
  | 'f' :: cs => .ok ('\x0c', cs)
  | 'r' :: cs => .ok ('\r', cs)
  | 'e' :: cs => .ok ('\x1b', cs)
  | '"' :: cs => .ok ('"', cs)
  | '\\' :: cs => .ok ('\\', cs)
  | 'x' :: cs => escapedChar 2 cs
  | 'u' :: cs => escapedChar 4 cs
  | 'U' :: cs => escapedChar 8 cs
  | _ => .error (.malformed "an escape")

/-- Skips a line break. -/
def skipBreak? : List Char → Option (List Char)
  | '\n' :: cs => some cs
  | '\r' :: '\n' :: cs => some cs
  | _ => none

/-- A character of a key without quotes. -/
def isKeyChar (c : Char) : Bool := c.isAlphanum || c = '_' || c = '-'

/-- A blank of a settings file. -/
def isSpace (c : Char) : Bool :=
  c = ' ' || c = '\t'

/-- What follows a backslash at the end of a line, with the line breaks and blanks after it left
out. -/
def joinLines? (cs : List Char) : Option (List Char) :=
  (skipBreak? (cs.dropWhile isSpace)).map (·.dropWhile fun c => isSpace c || c = '\n' || c = '\r')

/-- How a quoted text is written. -/
structure Quoting where
  quote : Char
  /-- Backslashes escape characters. -/
  escapes : Bool
  /-- The text may have several lines; three quotes close it. -/
  multiline : Bool

/-- Reads the rest of a quoted text up to its closing quotes; `read` holds what was read of it,
backwards. -/
def quotedRest (q : Quoting) : (fuel : Nat) → (read cs : List Char) → Except Error (String × List Char)
  | 0, _, _ => .error (.malformed "a closing quote")
  | _, _, [] => .error (.malformed "a closing quote")
  | fuel + 1, read, c :: cs =>
    if c = q.quote then
      if !q.multiline then .ok (String.ofList read.reverse, cs)
      else
        let quotes := (c :: cs).takeWhile (· = q.quote)
        if quotes.length < 3 then quotedRest q fuel (quotes ++ read) (cs.drop (quotes.length - 1))
        else if quotes.length ≤ 5 then
          .ok (String.ofList (quotes.drop 3 ++ read).reverse, cs.drop (quotes.length - 1))
        else .error (.malformed "at most five quotes")
    else if c = '\\' && q.escapes then
      match if q.multiline then joinLines? cs else none with
      | some cs => quotedRest q fuel read cs
      | none => do
        let (c, cs) ← escape cs
        quotedRest q fuel (c :: read) cs
    else if q.multiline then
      match skipBreak? (c :: cs) with
      | some rest => quotedRest q fuel ((if c = '\r' then ['\n', '\r'] else ['\n']) ++ read) rest
      | none =>
        if isControl c then .error (.malformed "no control character")
        else quotedRest q fuel (c :: read) cs
    else if isControl c then .error (.malformed "no control character")
    else quotedRest q fuel (c :: read) cs

/-- Reads a quoted text that opens with three quotes or, if that is allowed, with one. -/
def quoted (multilineToo : Bool) (quote : Char) (cs : List Char) :
    Except Error (String × List Char) :=
  let escapes := quote = '"'
  match cs with
  | q₁ :: q₂ :: q₃ :: rest =>
    if multilineToo && q₁ = quote && q₂ = quote && q₃ = quote then
      quotedRest ⟨quote, escapes, true⟩ (rest.length + 1) [] ((skipBreak? rest).getD rest)
    else quotedRest ⟨quote, escapes, false⟩ (cs.length + 1) [] (q₂ :: q₃ :: rest)
  | _ :: rest => quotedRest ⟨quote, escapes, false⟩ (cs.length + 1) [] rest
  | [] => .error (.malformed "a quote")

end QueryGateway.Toml
