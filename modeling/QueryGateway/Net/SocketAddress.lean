import QueryGateway.Text.Decimal

/-! # Socket addresses

An address on which a gateway listens may stand for every address of the machine. A client on the
same machine dials the loopback address of the same family instead; all other addresses, and names,
it dials as they are.
-/

namespace QueryGateway

/-- A numeric address. -/
inductive IpAddress where
  | v4 (octets : List Nat)
  | v6 (groups : List Nat)
  deriving DecidableEq, Repr

/-- A numeric address with a port. -/
structure SocketAddress where
  ip : IpAddress
  port : Nat
  deriving DecidableEq, Repr

/-- The address stands for every address of its family. -/
def IpAddress.isUnspecified : IpAddress → Bool
  | v4 octets => octets.all (· = 0)
  | v6 groups => groups.all (· = 0)

namespace SocketAddress

/-- Reads something from the start of a text. -/
abbrev Reader (α : Type) := List Char → Option (α × List Char)

/-- Reads one given character. -/
def char (c : Char) : Reader Unit
  | [] => none
  | d :: rest => if d = c then some ((), rest) else none

/-- The value of a digit in base 16. -/
def hexValue? (c : Char) : Option Nat :=
  if c.isDigit then some (c.toNat - '0'.toNat)
  else if 'a' ≤ c && c ≤ 'f' then some (c.toNat - 'a'.toNat + 10)
  else if 'A' ≤ c && c ≤ 'F' then some (c.toNat - 'A'.toNat + 10)
  else none

/-- A digit of a base up to 16. -/
def isDigitOf (base : Nat) (c : Char) : Bool :=
  (hexValue? c).any (· < base)

/-- Reads the digits of a number, as many as there are. -/
def digits (base : Nat) : Reader (List Char) := fun cs =>
  let digits := cs.takeWhile (isDigitOf base)
  if digits = [] then none else some (digits, cs.dropWhile (isDigitOf base))

/-- The number that digits write. -/
def valueOf (base : Nat) (digits : List Char) : Nat :=
  digits.foldl (fun n c => n * base + (hexValue? c).getD 0) 0

/-- Reads a number of at most `bound`. -/
def number (base bound : Nat) : Reader Nat := fun cs => do
  let (ds, rest) ← digits base cs
  if valueOf base ds ≤ bound then some (valueOf base ds, rest) else none

/-- Reads an octet: at most three digits, the first of several not being a zero. -/
def octet : Reader Nat := fun cs => do
  let (ds, rest) ← digits 10 cs
  if ds.length ≤ 3 && (ds.head? ≠ some '0' || ds.length = 1) && valueOf 10 ds ≤ 255 then
    some (valueOf 10 ds, rest)
  else none

/-- Reads a group of at most four digits in base 16. -/
def group : Reader Nat := fun cs => do
  let (ds, rest) ← digits 16 cs
  if ds.length ≤ 4 then some (valueOf 16 ds, rest) else none

/-- Reads four octets. -/
def octets : Reader (List Nat) := fun cs => do
  let (a, cs) ← octet cs
  let ((), cs) ← char '.' cs
  let (b, cs) ← octet cs
  let ((), cs) ← char '.' cs
  let (c, cs) ← octet cs
  let ((), cs) ← char '.' cs
  let (d, cs) ← octet cs
  return ([a, b, c, d], cs)

/-- Reads something after a colon, or without one if it is the `first`. -/
def separated (first : Bool) (read : Reader α) : Reader α := fun cs =>
  if first then read cs else (char ':' cs).bind fun ((), cs) => read cs

/-- Reads at most that many groups, as long as there are some. Four octets in place of the last two
groups end them; whether that is so is returned too. -/
def groups (first : Bool) : Nat → List Char → List Nat × Bool × List Char
  | 0, cs => ([], false, cs)
  | left + 1, cs =>
    match if left = 0 then none else separated first octets cs with
    | some ([a, b, c, d], rest) => ([a * 256 + b, c * 256 + d], true, rest)
    | _ =>
      match separated first group cs with
      | none => ([], false, cs)
      | some (g, rest) =>
        let (more, embedded, rest) := groups false left rest
        (g :: more, embedded, rest)

/-- Reads eight groups. Two colons stand for one group of zeros or more. -/
def ip6 : Reader (List Nat) := fun cs =>
  let (head, embedded, cs) := groups true 8 cs
  if head.length = 8 then some (head, cs)
  else if embedded then none
  else do
    let ((), cs) ← char ':' cs
    let ((), cs) ← char ':' cs
    let (tail, _, cs) := groups true (7 - head.length) cs
    return (head ++ List.replicate (8 - head.length - tail.length) 0 ++ tail, cs)

/-- Reads a port after a colon. -/
def portNumber : Reader Nat := fun cs => do
  let ((), cs) ← char ':' cs
  number 10 Text.maxWord16 cs

/-- Reads an address of four octets with its port. -/
def ofOctets? (cs : List Char) : Option SocketAddress := do
  let (ip, cs) ← octets cs
  let (port, cs) ← portNumber cs
  if cs = [] then some ⟨.v4 ip, port⟩ else none

/-- Skips the scope of an address. -/
def skipScope (cs : List Char) : List Char :=
  match (char '%' cs).bind fun ((), cs) => number 10 Text.maxWord32 cs with
  | some (_, rest) => rest
  | none => cs

/-- Reads an address of eight groups in brackets with its port. -/
def ofGroups? (cs : List Char) : Option SocketAddress := do
  let ((), cs) ← char '[' cs
  let (ip, cs) ← ip6 cs
  let ((), cs) ← char ']' (skipScope cs)
  let (port, cs) ← portNumber cs
  if cs = [] then some ⟨.v6 ip, port⟩ else none

/-- Reads a numeric address with a port. -/
def parse? (s : String) : Option SocketAddress :=
  (ofOctets? s.toList).or (ofGroups? s.toList)

/-- The loopback address of the same family, with the same port. -/
def loopback (a : SocketAddress) : String :=
  match a.ip with
  | .v4 _ => s!"127.0.0.1:{a.port}"
  | .v6 _ => s!"[::1]:{a.port}"

end SocketAddress

/-- The address that a client on the same machine dials to reach a listener. -/
def dialAddress (listen : String) : String :=
  match SocketAddress.parse? listen with
  | some a => if a.ip.isUnspecified then a.loopback else listen
  | none => listen

end QueryGateway
