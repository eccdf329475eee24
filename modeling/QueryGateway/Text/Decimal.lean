/-! # Decimal numbers

Numbers are written with their shortest digits. Readers also accept leading zeros and one `+`,
and refuse what is above a bound.
-/

namespace QueryGateway.Text

/-- The number that a text of ASCII digits writes; a sign or an empty text is refused. -/
def digits? (cs : List Char) : Option Nat :=
  if cs ≠ [] ∧ cs.all Char.isDigit then some (Nat.ofDigitChars 10 cs 0) else none

/-- Reads a number of at most `bound`: ASCII digits after at most one `+`. -/
def decimal? (bound : Nat) (s : String) : Option Nat :=
  let digits := match s.toList with
    | '+' :: rest => rest
    | cs => cs
  (digits? digits).filter (· ≤ bound)

/-- The largest number of 16 bits. -/
def maxWord16 : Nat := 0xFFFF

/-- The largest number of 32 bits. -/
def maxWord32 : Nat := 0xFFFFFFFF

/-- The largest number of 64 bits. -/
def maxWord64 : Nat := 0xFFFFFFFFFFFFFFFF

theorem toList_toString_nat (n : Nat) : (toString n).toList = Nat.toDigits 10 n := by
  show n.repr.toList = _
  rw [Nat.repr_eq_ofList_toDigits, String.toList_ofList]

theorem digits?_toDigits (n : Nat) : digits? (Nat.toDigits 10 n) = some n := by
  have hne : Nat.toDigits 10 n ≠ [] := Nat.toDigits_ne_nil
  have hall : (Nat.toDigits 10 n).all Char.isDigit :=
    List.all_eq_true.mpr fun c hc => Nat.isDigit_of_mem_toDigits (by omega) (by omega) hc
  simp [digits?, hne, hall, Nat.ofDigitChars_toDigits]

/-- A written number reads back, if the reader's bound allows it. -/
theorem decimal?_toString {bound n : Nat} (h : n ≤ bound) :
    decimal? bound (toString n) = some n := by
  have hhead : ∀ rest, Nat.toDigits 10 n ≠ '+' :: rest := by
    intro rest heq
    have := Nat.isDigit_of_mem_toDigits (b := 10) (n := n) (c := '+') (by omega) (by omega)
      (by rw [heq]; simp)
    exact absurd this (by decide)
  rw [decimal?, toList_toString_nat]
  split
  · next rest heq => exact absurd heq (hhead rest)
  · simp [digits?_toDigits, h]

end QueryGateway.Text
