import QueryGateway.Text.Printable

/-! # Quoted text

A text in a message stands in double quotes. Quotes, backslashes and the usual control characters
are escaped by a backslash, any other character that is not printable by its number.
-/

namespace QueryGateway.Text

/-- The digits of a number in base 16, lower case, none for nothing. -/
def hexDigits (n : Nat) : List Char :=
  Nat.toDigits 16 n

/-- A character inside quotes. -/
def quoteChar (c : Char) : List Char :=
  match c with
  | '"' => ['\\', '"']
  | '\\' => ['\\', '\\']
  | '\n' => ['\\', 'n']
  | '\r' => ['\\', 'r']
  | '\t' => ['\\', 't']
  | '\x00' => ['\\', '0']
  | c => if isPrintable c then [c] else ['\\', 'u', '\x7b'] ++ hexDigits c.toNat ++ ['\x7d']

/-- The text in quotes. -/
def quote (s : String) : String :=
  String.ofList ('"' :: s.toList.flatMap quoteChar ++ ['"'])

end QueryGateway.Text
