import Formwork.Text.CharClass

/-! # Decimal numerals

Writing and reading whole numbers in base ten. `natOf?` reads exactly the
nonempty lists of ASCII digits, and `value` gives back the number that `digits`
writes. The signed 64-bit reader takes an optional sign and refuses what lies
outside its range.
-/

namespace Formwork

namespace Word64

/-- The least signed 64-bit integer. -/
def minSigned : Int := -9223372036854775808

/-- The greatest signed 64-bit integer. -/
def maxSigned : Int := 9223372036854775807

/-- The greatest unsigned 64-bit integer. -/
def maxUnsigned : Int := 18446744073709551615

/-- The signed 64-bit integers. -/
def IsSigned (n : Int) : Prop := minSigned ≤ n ∧ n ≤ maxSigned

instance (n : Int) : Decidable (IsSigned n) := inferInstanceAs (Decidable (_ ∧ _))

/-- The signed 64-bit integer nearest to `n`. -/
def saturate (n : Int) : Int := max minSigned (min maxSigned n)

theorem saturate_of_isSigned {n : Int} (h : IsSigned n) : saturate n = n := by
  unfold saturate IsSigned minSigned maxSigned at *; omega

/-- Saturation does not change which side of a bound below the maximum a number
lies on. -/
theorem lt_saturate_iff {m n : Int} (hm : minSigned ≤ m) (h : m < maxSigned) :
    m < saturate n ↔ m < n := by
  unfold saturate minSigned maxSigned at *; omega

end Word64

namespace Decimal

/-- The character of a digit below ten. -/
def digitChar (n : Nat) : Char := Char.ofNat ('0'.toNat + n)

/-- The number that a digit stands for. -/
def digitValue (c : Char) : Nat := c.toNat - '0'.toNat

/-- The decimal digits of a number, without leading zeros. -/
def digits (n : Nat) : List Char :=
  if n < 10 then [digitChar n] else digits (n / 10) ++ [digitChar (n % 10)]

/-- The number that digits stand for. -/
def value (cs : List Char) : Nat := cs.foldl (fun n c => n * 10 + digitValue c) 0

/-- Reads one or more ASCII digits. -/
def natOf? (cs : List Char) : Option Nat :=
  if !cs.isEmpty && cs.all CharClass.isAsciiDigit then some (value cs) else none

/-- Reads digits after an optional sign. -/
def intOf? : List Char → Option Int
  | '+' :: cs => (natOf? cs).map Int.ofNat
  | '-' :: cs => (natOf? cs).map fun n => -Int.ofNat n
  | cs => (natOf? cs).map Int.ofNat

/-- Reads a signed 64-bit integer. -/
def int64? (s : String) : Option Int :=
  (intOf? s.toList).filter fun n => decide (Word64.IsSigned n)

/-- The digits of an integer, after a minus sign if it is negative. -/
def ofInt : Int → List Char
  | .ofNat n => digits n
  | .negSucc n => '-' :: digits (n + 1)

/-- An integer as text. -/
def intText (n : Int) : String := String.ofList (ofInt n)

/-- The digits of a number, with zeros in front up to `width` digits. -/
def padded (width n : Nat) : List Char :=
  List.replicate (width - (digits n).length) '0' ++ digits n

theorem digitChar_spec : ∀ n : Nat, n < 10 →
    CharClass.isAsciiDigit (digitChar n) = true ∧ digitValue (digitChar n) = n := by
  decide

theorem digits_ne_nil (n : Nat) : digits n ≠ [] := by
  unfold digits; split <;> simp

theorem isAsciiDigit_of_mem_digits {n : Nat} {c : Char} (h : c ∈ digits n) :
    CharClass.isAsciiDigit c = true := by
  fun_induction digits n with
  | case1 n hn => simp at h; subst h; exact (digitChar_spec n hn).1
  | case2 n hn ih =>
    rcases List.mem_append.1 h with h | h
    · exact ih h
    · simp at h; subst h; exact (digitChar_spec _ (Nat.mod_lt _ (by decide))).1

theorem isAsciiDigit_of_mem_padded {width n : Nat} {c : Char} (h : c ∈ padded width n) :
    CharClass.isAsciiDigit c = true := by
  rcases List.mem_append.1 h with h | h
  · rw [(List.mem_replicate.1 h).2]
    decide
  · exact isAsciiDigit_of_mem_digits h

/-- An integer is written with digits and a minus sign. -/
theorem mem_intText {n : Int} {c : Char} (h : c ∈ (intText n).toList) :
    CharClass.isAsciiDigit c = true ∨ c = '-' := by
  rw [intText, String.toList_ofList] at h
  cases n with
  | ofNat n => exact .inl (isAsciiDigit_of_mem_digits h)
  | negSucc n =>
    rcases List.mem_cons.1 h with h | h
    · exact .inr h
    · exact .inl (isAsciiDigit_of_mem_digits h)

theorem value_append (a : List Char) (c : Char) :
    value (a ++ [c]) = value a * 10 + digitValue c := by
  simp [value]

theorem value_digits (n : Nat) : value (digits n) = n := by
  fun_induction digits n with
  | case1 n hn => simp [value, (digitChar_spec n hn).2]
  | case2 n hn ih =>
    rw [value_append, ih, (digitChar_spec _ (Nat.mod_lt _ (by decide))).2]
    omega

end Decimal

end Formwork
