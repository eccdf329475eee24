import QueryGateway.Text.Decimal
import QueryGateway.Toml.Value

/-! # Numbers, truth values and dates

A scalar is a run of letters, digits, signs, underscores, colons and points. Underscores separate
digits of a number. Integers of any base are read; their bounds are those of the setting they are
for.
-/

namespace QueryGateway.Toml

/-- A character of a scalar. -/
def isScalarChar (c : Char) : Bool :=
  c.isAlphanum || c = '+' || c = '-' || c = '_' || c = '.' || c = ':'

/-- The value of a digit in base 16. -/
def hexDigit? (c : Char) : Option Nat :=
  if c.isDigit then some (c.toNat - '0'.toNat)
  else if 'a' ≤ c && c ≤ 'f' then some (c.toNat - 'a'.toNat + 10)
  else if 'A' ≤ c && c ≤ 'F' then some (c.toNat - 'A'.toNat + 10)
  else none

/-- Digits of a base, in groups that single underscores separate. -/
def isGrouped (base : Nat) : List Char → Bool
  | [] => false
  | [c] => (hexDigit? c).any (· < base)
  | c :: '_' :: rest => (hexDigit? c).any (· < base) && isGrouped base rest
  | c :: rest => (hexDigit? c).any (· < base) && isGrouped base rest

/-- The number that grouped digits write. -/
def groupedValue (base : Nat) (cs : List Char) : Nat :=
  cs.foldl (fun n c => match hexDigit? c with
    | some d => n * base + d
    | none => n) 0

/-- A whole number in digits of base 10, without a leading zero. -/
def isWhole (cs : List Char) : Bool :=
  isGrouped 10 cs && (cs.head? ≠ some '0' || cs.length = 1)

/-- Splits off a sign. -/
def splitSign : List Char → Bool × List Char
  | '-' :: rest => (true, rest)
  | '+' :: rest => (false, rest)
  | cs => (false, cs)

/-- Reads an integer. -/
def integer? (cs : List Char) : Option Int :=
  match cs with
  | '0' :: 'x' :: rest => if isGrouped 16 rest then some (groupedValue 16 rest) else none
  | '0' :: 'o' :: rest => if isGrouped 8 rest then some (groupedValue 8 rest) else none
  | '0' :: 'b' :: rest => if isGrouped 2 rest then some (groupedValue 2 rest) else none
  | cs =>
    let (negative, digits) := splitSign cs
    if isWhole digits then
      let n := groupedValue 10 digits
      some (if negative then -(n : Int) else n)
    else none

/-- Every integer of a file lies between these bounds: a negative one has 127 bits besides its sign,
any other one has 128 bits. -/
def integerInRange : Int → Bool
  | .ofNat n => n < Nat.pow 2 128
  | .negSucc n => n < Nat.pow 2 127

/-- The parts of a number with a fraction or an exponent: the digits before the point, those after
it, and the exponent. -/
structure Decimal where
  whole : List Char
  fraction : List Char
  exponent : Int

/-- Reads a number with a fraction or an exponent. -/
def decimalParts? (cs : List Char) : Option Decimal :=
  let body := (splitSign cs).2
  let mantissa := body.takeWhile fun c => c ≠ 'e' && c ≠ 'E'
  let whole := mantissa.takeWhile (· ≠ '.')
  let exponent? : Option Int := match body.dropWhile fun c => c ≠ 'e' && c ≠ 'E' with
    | [] => some 0
    | _ :: digits =>
      let (negative, digits) := splitSign digits
      if isGrouped 10 digits then
        let n := groupedValue 10 digits
        some (if negative then -(n : Int) else n)
      else none
  let fraction? := match mantissa.dropWhile (· ≠ '.') with
    | [] => if mantissa.length = body.length then none else some []
    | _ :: digits => if isGrouped 10 digits then some digits else none
  match exponent?, fraction? with
  | some exponent, some fraction => if isWhole whole then some ⟨whole, fraction, exponent⟩ else none
  | _, _ => none

/-- The number is too large for a binary number of 64 bits: it lies above the largest one by half
of the last place or more. -/
def Decimal.overflows (d : Decimal) : Bool :=
  let digits := (d.whole ++ d.fraction).filter Char.isDigit
  let mantissa := Nat.ofDigitChars 10 digits 0
  let exponent := d.exponent - (d.fraction.filter Char.isDigit).length
  let length : Int := (Nat.toDigits 10 mantissa).length
  if mantissa = 0 || length + exponent < 308 then false
  else if 310 < length + exponent then true
  else
    let bound := Nat.pow 2 1024 - Nat.pow 2 970
    if 0 ≤ exponent then bound ≤ mantissa * Nat.pow 10 exponent.toNat
    else bound * Nat.pow 10 (-exponent).toNat ≤ mantissa

/-- A number of this many digits, within bounds. -/
def fixed? (width low high : Nat) (cs : List Char) : Option (Nat × List Char) :=
  let digits := cs.take width
  if digits.length = width && digits.all Char.isDigit then
    let n := Nat.ofDigitChars 10 digits 0
    if low ≤ n && n ≤ high then some (n, cs.drop width) else none
  else none

/-- The days of a month. -/
def daysOf (year month : Nat) : Nat :=
  if month = 2 then
    if year % 4 = 0 && (year % 100 ≠ 0 || year % 400 = 0) then 29 else 28
  else if month = 4 || month = 6 || month = 9 || month = 11 then 30
  else 31

/-- Skips a character. -/
def skip? (c : Char) : List Char → Option (List Char)
  | [] => none
  | d :: rest => if d = c then some rest else none

/-- Skips a date. -/
def skipDate? (cs : List Char) : Option (List Char) := do
  let (year, cs) ← fixed? 4 0 9999 cs
  let cs ← skip? '-' cs
  let (month, cs) ← fixed? 2 1 12 cs
  let cs ← skip? '-' cs
  let (_, cs) ← fixed? 2 1 (daysOf year month) cs
  return cs

/-- Skips a fraction of a second. -/
def skipFraction? : List Char → Option (List Char)
  | '.' :: rest => if rest.head?.any Char.isDigit then some (rest.dropWhile Char.isDigit) else none
  | cs => some cs

/-- Skips a time of day. The seconds may be left out. -/
def skipTime? (cs : List Char) : Option (List Char) := do
  let (_, cs) ← fixed? 2 0 23 cs
  let cs ← skip? ':' cs
  let (_, cs) ← fixed? 2 0 59 cs
  match cs with
  | ':' :: cs =>
    let (_, cs) ← fixed? 2 0 60 cs
    skipFraction? cs
  | cs => return cs

/-- What may follow a date and a time: the distance from universal time, or nothing. -/
def isOffset : List Char → Bool
  | [] => true
  | ['Z'] | ['z'] => true
  | sign :: rest =>
    (sign = '+' || sign = '-') &&
      match fixed? 2 0 23 rest with
      | some (_, ':' :: minutes) => (fixed? 2 0 59 minutes).any (·.2 = [])
      | _ => false

/-- A date, a time, or both. -/
def isDateTime (cs : List Char) : Bool :=
  match skipDate? cs with
  | none => skipTime? cs = some []
  | some [] => true
  | some (separator :: rest) =>
    (separator = 'T' || separator = 't' || separator = ' ') && (skipTime? rest).any isOffset

/-- Reads a scalar. -/
def scalar (cs : List Char) : Except Error Value :=
  let text := String.ofList cs
  let bare := String.ofList (splitSign cs).2
  match text, integer? cs, decimalParts? cs with
  | "true", _, _ => .ok (.boolean true)
  | "false", _, _ => .ok (.boolean false)
  | _, some n, _ => if integerInRange n then .ok (.integer n) else .error (.outOfRange text)
  | _, none, some d => if d.overflows then .error (.outOfRange text) else .ok (.float text)
  | _, none, none =>
    if bare = "inf" || bare = "nan" then .ok (.float text)
    else if isDateTime cs then .ok (.dateTime text)
    else .error (.malformed "a value")

/-- The characters of the scalar at the start of a text, and the rest. A blank between a date and a
time belongs to it. -/
def takeScalar (cs : List Char) : List Char × List Char :=
  let first := cs.takeWhile isScalarChar
  match skipDate? first, cs.dropWhile isScalarChar with
  | some [], ' ' :: c :: rest =>
    if c.isDigit then
      (first ++ ' ' :: (c :: rest).takeWhile isScalarChar, (c :: rest).dropWhile isScalarChar)
    else (first, ' ' :: c :: rest)
  | _, rest => (first, rest)

end QueryGateway.Toml
