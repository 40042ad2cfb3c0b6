import Formwork.Text.Decimal

/-! # Shortest decimal text of a binary floating-point number

A finite double `m · 2^q` owns an interval of real numbers that round to it; the
ends belong to it exactly when `m` is even. Its shortest text has the fewest
digits of any decimal in that interval, and among those the nearest to the
number. `shortest` selects the digits in exact integer arithmetic; `Layout`
holds the decisions about how digits are laid out.
-/

namespace Formwork

/-- A double-precision number, by its IEEE 754 bit pattern. -/
structure Double where
  bits : UInt64
deriving DecidableEq, Inhabited

namespace Double

/-- The machine's number. -/
def toFloat (d : Double) : Float := Float.ofBits d.bits

/-- The bit pattern of the machine's number. -/
def ofFloat (f : Float) : Double := ⟨f.toBits⟩

/-- Equality of the numbers: the two zeros are equal, a NaN equals nothing. -/
def numEq (a b : Double) : Bool := a.toFloat == b.toFloat

/-- The sign bit is set. -/
def isNegative (d : Double) : Bool := d.bits >>> 63 != 0

/-- The biased exponent. -/
def biasedExponent (d : Double) : Nat := ((d.bits >>> 52) &&& 0x7FF).toNat

/-- The fraction bits. -/
def fraction (d : Double) : Nat := (d.bits &&& 0xFFFFFFFFFFFFF).toNat

/-- An infinity or a NaN. -/
def isSpecial (d : Double) : Bool := d.biasedExponent == 0x7FF

end Double

namespace FloatText

/-- Decimal digits with a power of ten: `number · 10 ^ exponent`. -/
structure Digits where
  number : Nat
  exponent : Int
deriving DecidableEq

/-- `n · 10 ^ e` as a fraction with natural numerator and denominator. -/
def scaleTen (n : Nat) (e : Int) : Nat × Nat :=
  if e ≥ 0 then (n * Nat.pow 10 e.toNat, 1) else (n, Nat.pow 10 (-e).toNat)

/-- Compares `a / b` with `c / d`. -/
def compareFractions (a b c d : Nat) : Ordering := compare (a * d) (c * b)

/-- The interval of a number: quarter units `value`, `low` and `high` over one
denominator, and whether the ends belong to it. -/
structure Interval where
  value : Nat
  low : Nat
  high : Nat
  denominator : Nat
  closed : Bool

/-- The interval of `m · 2 ^ q`; `narrow` says that the numbers just below are
half as far apart. -/
def Interval.ofBinary (m : Nat) (q : Int) (narrow : Bool) : Interval :=
  let shift := q - 2
  let scale := Nat.pow 2 shift.toNat
  { value := 4 * m * scale
    low := (4 * m - if narrow then 1 else 2) * scale
    high := (4 * m + 2) * scale
    denominator := Nat.pow 2 (-shift).toNat
    closed := m % 2 == 0 }

/-- The fraction lies in the interval. -/
def Interval.contains (i : Interval) (numerator denominator : Nat) : Bool :=
  let atLow := compareFractions numerator denominator i.low i.denominator
  let atHigh := compareFractions numerator denominator i.high i.denominator
  if i.closed then atLow != .lt && atHigh != .gt else atLow == .gt && atHigh == .lt

/-- The point of the grid of step `10 ^ e` that is in the interval and nearest to
the value; of two at the same distance the even one. -/
def Interval.onGrid? (i : Interval) (e : Int) : Option Digits :=
  let (one, unit) := scaleTen 1 e
  let below := i.value * unit / (i.denominator * one)
  let hit (n : Nat) : Bool := i.contains (n * one) unit
  let twice := 2 * i.value * unit
  let middle := (2 * below + 1) * (i.denominator * one)
  let upper := if twice = middle then below % 2 == 1 else decide (middle < twice)
  if hit below && hit (below + 1) then some ⟨if upper then below + 1 else below, e⟩
  else if hit below then some ⟨below, e⟩
  else if hit (below + 1) then some ⟨below + 1, e⟩
  else none

/-- The first hit among the grids of step `10 ^ e`, `10 ^ (e - 1)` and so on. -/
def Interval.firstHit (i : Interval) : Nat → Int → Digits
  | 0, e => (i.onGrid? e).getD ⟨i.value / i.denominator, 0⟩
  | n + 1, e =>
    match i.onGrid? e with
    | some found => found
    | none => firstHit i n (e - 1)

/-- Without zeros at the end of the digits. -/
def Digits.trimmed : Nat → Digits → Digits
  | 0, d => d
  | n + 1, d =>
    if d.number ≠ 0 ∧ d.number % 10 = 0 then trimmed n ⟨d.number / 10, d.exponent + 1⟩ else d

/-- The shortest digits of a positive finite number. -/
def shortest (d : Double) : Digits :=
  let biased := d.biasedExponent
  let m := if biased = 0 then d.fraction else d.fraction + Nat.pow 2 52
  let q : Int := (if biased = 0 then 1 else biased) - 1075
  let interval := Interval.ofBinary m q (d.fraction = 0 && biased > 1)
  let whole := (Decimal.digits (interval.value / interval.denominator)).length
  let start : Int :=
    if interval.value ≥ interval.denominator then whole
    else -((Decimal.digits (interval.denominator / interval.value)).length : Int) + 1
  (interval.firstHit 20 start).trimmed 400

/-- How digits are laid out: numbers with a decimal point after at least
`leastPoint` and at most sixteen places are written positionally. -/
structure Layout where
  leastPoint : Int

/-- The text of a finite number. -/
def finite (layout : Layout) (d : Double) : List Char :=
  let sign := if d.isNegative then ['-'] else []
  if d.bits <<< 1 = 0 then sign ++ ['0', '.', '0']
  else
    let short := shortest d
    let digits := Decimal.digits short.number
    let length : Int := digits.length
    let point := length + short.exponent
    sign ++
      if 0 ≤ short.exponent ∧ point ≤ 16 then
        digits ++ List.replicate short.exponent.toNat '0' ++ ['.', '0']
      else if 0 < point ∧ point ≤ 16 then
        digits.take point.toNat ++ '.' :: digits.drop point.toNat
      else if layout.leastPoint ≤ point ∧ point ≤ 0 then
        '0' :: '.' :: List.replicate (-point).toNat '0' ++ digits
      else
        digits.take 1 ++ (if digits.length > 1 then '.' :: digits.drop 1 else []) ++
          'e' :: Decimal.ofInt (point - 1)

end FloatText

namespace Double

/-- The number nearest to `significand · 10 ^ exponent`, negated on demand; a number
beyond the greatest finite one is refused. -/
def ofDecimal? (negative : Bool) (significand : Nat) (exponent : Int) : Option Double :=
  let magnitude : Int := (Decimal.digits significand).length + exponent
  let size :=
    if significand = 0 ∨ magnitude < -330 then some 0.0
    else if magnitude > 310 then none
    else
      let f := Float.ofScientific significand (exponent < 0) exponent.natAbs
      if f.isInf then none else some f
  size.map fun f => .ofFloat (if negative then -f else f)

end Double

end Formwork
