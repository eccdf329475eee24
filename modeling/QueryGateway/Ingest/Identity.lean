import QueryGateway.Wire.Connection
import QueryGateway.Entity

/-! # Fresh client names

A producer without a name connects to the assignment listener, gets a fresh name as one frame, and
is disconnected. The name is a random identifier of 128 bits: six of them are fixed and say that
the others are random.
-/

namespace QueryGateway

/-- The random bits of a name. -/
structure Entropy where
  high : UInt64
  low : UInt64
  deriving DecidableEq, Repr

/-- The bits with the fixed ones set: version 4 in the first half, the variant in the second. -/
def Entropy.mark (e : Entropy) : Entropy :=
  ⟨(e.high &&& 0xFFFFFFFFFFFF0FFF) ||| 0x4000,
    (e.low &&& 0x3FFFFFFFFFFFFFFF) ||| 0x8000000000000000⟩

/-- The last `width` digits of a number in base 16. -/
def hexWord : (width : Nat) → UInt64 → List Char
  | 0, _ => []
  | width + 1, n => hexWord width (n / 16) ++ [Nat.digitChar (n % 16).toNat]

/-- The name of these bits, in groups of 8, 4, 4, 4 and 12 digits. -/
def ClientId.ofEntropy (e : Entropy) : ClientId :=
  let bits := e.mark
  let high := hexWord 16 bits.high
  let low := hexWord 16 bits.low
  ⟨String.ofList (high.take 8 ++ '-' :: (high.drop 8).take 4 ++ '-' :: high.drop 12 ++
    '-' :: low.take 4 ++ '-' :: low.drop 4)⟩

/-- Sends a fresh name and ends the connection. -/
def assignClientId (e : Entropy) : Program Wire (Except WireError ClientId) := do
  let id := ClientId.ofEntropy e
  match ← Wire.write id.text with
  | .error e => return .error e
  | .ok () =>
    Wire.shutdown
    return .ok id

example : (ClientId.ofEntropy ⟨0, 0⟩).text = "00000000-0000-4000-8000-000000000000" := by decide

end QueryGateway
