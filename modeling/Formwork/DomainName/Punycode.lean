import Formwork.Text.Decimal

/-! # Punycode

The ASCII form of a list of code points: its ASCII characters, a hyphen if there
are any, and then the remaining code points as distances, written as
variable-length numbers in base 36 whose digit thresholds adapt to the distances
seen so far.
-/

namespace Formwork.DomainName.Punycode

/-- The new bias after a distance was read or written; `count` code points stand
now. -/
def adapt (delta count : Nat) (first : Bool) : Nat :=
  let d := if first then delta / 700 else delta / 2
  shrink 8 (d + d / count) 0
where
  /-- Divides by 35 until the threshold is reached, with `k` as the count of the
  digits passed so far. -/
  shrink : Nat → Nat → Nat → Nat
    | 0, d, k => k + 36 * d / (d + 38)
    | fuel + 1, d, k => if d > 455 then shrink fuel (d / 35) (k + 36) else k + 36 * d / (d + 38)

/-- The threshold of the digit at position `k`. -/
def threshold (k bias : Nat) : Nat := if k ≤ bias then 1 else min 26 (k - bias)

/-- The character of a digit below 36. -/
def digitChar (d : Nat) : Char :=
  Char.ofNat (if d < 26 then 'a'.toNat + d else '0'.toNat + (d - 26))

/-- The value of a digit, capital or small. -/
def digitValue? (c : Char) : Option Nat :=
  if 'a' ≤ c ∧ c ≤ 'z' then some (c.toNat - 'a'.toNat)
  else if 'A' ≤ c ∧ c ≤ 'Z' then some (c.toNat - 'A'.toNat)
  else if '0' ≤ c ∧ c ≤ '9' then some (c.toNat - '0'.toNat + 26)
  else none

/-- The variable-length form of a number, from the digit at position `k` on. -/
def number (fuel k bias q : Nat) : List Char :=
  match fuel with
  | 0 => []
  | fuel + 1 =>
    let t := threshold k bias
    if q < t then [digitChar q]
    else digitChar (t + (q - t) % (36 - t)) :: number fuel (k + 36) bias ((q - t) / (36 - t))

/-- What has been written so far while distances are written in turn. -/
structure Writer where
  text : List Char
  delta : Nat
  bias : Nat
  handled : Nat
  first : Bool

/-- Passes the code point `x` of the input while the code points equal to `m` are
being written. -/
def Writer.pass (m : Nat) (w : Writer) (x : Nat) : Writer :=
  if x < m then { w with delta := w.delta + 1 }
  else if x = m then
    { text := w.text ++ number 16 36 w.bias w.delta
      delta := 0
      bias := adapt w.delta (w.handled + 1) w.first
      handled := w.handled + 1
      first := false }
  else w

/-- Writes the code points of `rest`, the distinct ones above `last` in ascending
order. -/
def writeFrom (input : List Nat) : (last : Nat) → (rest : List Nat) → Writer → Writer
  | _, [], w => w
  | last, m :: rest, w =>
    let w := { w with delta := w.delta + (m - last) * (w.handled + 1) }
    let w := input.foldl (Writer.pass m) w
    writeFrom input (m + 1) rest { w with delta := w.delta + 1 }

/-- The ASCII form. -/
def encode (input : List Nat) : List Char :=
  let basic := input.filter (· < 128)
  let above := ((input.filter (128 ≤ ·)).eraseDups).mergeSort
  let front := basic.map Char.ofNat
  let start : Writer :=
    { text := if front.isEmpty then [] else front ++ ['-']
      delta := 0
      bias := 72
      handled := front.length
      first := true }
  (writeFrom input 128 above start).text

/-- Reads one variable-length number: its value and what follows. -/
def readNumber? (bias : Nat) : (k weight acc : Nat) → List Char → Option (Nat × List Char)
  | _, _, _, [] => none
  | k, weight, acc, c :: rest => do
    let d ← digitValue? c
    let acc := acc + d * weight
    let t := threshold k bias
    if acc > 0xFFFFFFFF then none
    else if d < t then some (acc, rest)
    else readNumber? bias (k + 36) (weight * (36 - t)) acc rest

theorem readNumber?_length_lt {bias k weight acc : Nat} {cs rest : List Char} {n : Nat}
    (h : readNumber? bias k weight acc cs = some (n, rest)) : rest.length < cs.length := by
  induction cs generalizing k weight acc with
  | nil => simp [readNumber?] at h
  | cons c cs ih =>
    unfold readNumber? at h
    cases hd : digitValue? c with
    | none => simp [hd] at h
    | some d =>
      simp only [hd, Option.bind_eq_bind, Option.bind_some] at h
      split at h
      · simp at h
      · split at h
        · simp only [Option.some.injEq, Prod.mk.injEq] at h
          simp [h.2]
        · exact Nat.lt_succ_of_lt (ih h)

/-- Inserts the code points that the distances in `cs` stand for into `out`. -/
def insertAll? (out : List Nat) (i n bias : Nat) (first : Bool) (cs : List Char) :
    Option (List Nat) :=
  if cs.isEmpty then some out
  else
    match h : readNumber? bias 36 1 0 cs with
    | none => none
    | some (delta, rest) =>
      let place := i + delta
      let count := out.length + 1
      let x := n + place / count
      let index := place % count
      if x > 0x10FFFF ∨ (0xD800 ≤ x ∧ x < 0xE000) then none
      else insertAll? (out.take index ++ x :: out.drop index) (index + 1) x
        (adapt delta count first) false rest
termination_by cs.length
decreasing_by exact readNumber?_length_lt h

/-- The code points of an ASCII form. -/
def decode? (cs : List Char) : Option (List Nat) :=
  let (front, behind) := match Cut.atLast? (· == '-') cs with
    | some (front, behind) => (front, behind)
    | none => ([], cs)
  if front.all (fun c => c.toNat < 128) then
    insertAll? (front.map Char.toNat) 0 128 72 true behind
  else none

end Formwork.DomainName.Punycode
