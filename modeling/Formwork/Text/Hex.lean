/-! # Digits of any base up to sixteen

`Hex.value?` gives the value of a digit and `Hex.digit` the digit of a value;
`Hex.number?` reads digits of a base.
-/

namespace Formwork.Hex

/-- The value of a hexadecimal digit. -/
def value? (c : Char) : Option Nat :=
  if '0' ≤ c ∧ c ≤ '9' then some (c.toNat - '0'.toNat)
  else if 'a' ≤ c ∧ c ≤ 'f' then some (c.toNat - 'a'.toNat + 10)
  else if 'A' ≤ c ∧ c ≤ 'F' then some (c.toNat - 'A'.toNat + 10)
  else none

/-- A hexadecimal digit in small letters. -/
def digit (n : Nat) : Char :=
  if n < 10 then Char.ofNat ('0'.toNat + n) else Char.ofNat ('a'.toNat + (n - 10))

/-- The number that one or more digits of a base stand for. -/
def number? (base : Nat) (cs : List Char) : Option Nat :=
  if cs.isEmpty then none
  else cs.foldlM (fun n c => ((value? c).filter (· < base)).map (n * base + ·)) 0

/-- Reading a digit undoes writing it. -/
theorem value?_digit : ∀ n : Nat, n < 16 → value? (digit n) = some n := by decide

end Formwork.Hex
