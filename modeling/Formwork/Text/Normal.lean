import Formwork.Text.Decomposition

/-! # Canonical composition

The form of a list of code points in which canonically equivalent texts are
equal (normalization form C): characters are taken apart, marks are put into
the order of their combining classes, and what can be composed is composed.
-/

namespace Formwork.Normal

/-- The first Hangul syllable. -/
def syllableBase : Nat := 0xAC00

/-- Hangul letters that lead, stand in the middle and end a syllable. -/
def leadBase : Nat := 0x1100

/-- Before the first middle letter no syllable continues. -/
def vowelBase : Nat := 0x1161

/-- One before the first final letter. -/
def tailBase : Nat := 0x11A7

/-- The letters of a Hangul syllable. -/
def hangul? (x : Nat) : Option (List Nat) :=
  let i := x - syllableBase
  if syllableBase ≤ x ∧ i < 11172 then
    let front := [leadBase + i / 588, vowelBase + i % 588 / 28]
    some (if i % 28 = 0 then front else front ++ [tailBase + i % 28])
  else none

/-- The syllable that a letter makes of what stands before it. -/
def hangulPair? (a b : Nat) : Option Nat :=
  if leadBase ≤ a ∧ a < leadBase + 19 ∧ vowelBase ≤ b ∧ b < vowelBase + 21 then
    some (syllableBase + (a - leadBase) * 588 + (b - vowelBase) * 28)
  else if syllableBase ≤ a ∧ a < syllableBase + 11172 ∧ (a - syllableBase) % 28 = 0 ∧
      tailBase < b ∧ b < tailBase + 28 then
    some (a + (b - tailBase))
  else none

/-- Takes a code point apart, through at most `depth` composites. -/
def parts : (depth : Nat) → Nat → List Nat
  | 0, x => [x]
  | depth + 1, x =>
    match hangul? x with
    | some letters => letters
    | none =>
      match Decomposition.composites.find? x with
      | some [a, b] => parts depth a ++ [b]
      | _ => (Decomposition.others.find? x).getD [x]

/-- Puts a mark behind the marks of no greater class. -/
def insertMark (x : Nat × Nat) : List (Nat × Nat) → List (Nat × Nat)
  | [] => [x]
  | y :: ys => if x.2 < y.2 then x :: y :: ys else y :: insertMark x ys

/-- The code points with their classes, every run of marks in the order of the
classes. -/
def ordered (xs : List Nat) : List (Nat × Nat) :=
  let step (state : List (Nat × Nat) × List (Nat × Nat)) (x : Nat) :=
    let k := Decomposition.combiningClass x
    if k = 0 then (state.1 ++ state.2 ++ [(x, 0)], [])
    else (state.1, insertMark (x, k) state.2)
  let (front, marks) := xs.foldl step ([], [])
  front ++ marks

/-- What a starter makes of itself and of the marks behind it: the marks not yet
composed are kept in reverse. -/
structure Pending where
  starter : Nat
  marks : List (Nat × Nat)

/-- The code points of a starter and its marks. -/
def Pending.toList (p : Pending) : List Nat := p.starter :: (p.marks.reverse.map Prod.fst)

/-- The character that the next code point makes of the starter, unless a mark of
no smaller class stands between them. -/
def Pending.absorb? (p : Pending) (x : Nat × Nat) : Option Pending :=
  let blocked := match p.marks with
    | [] => false
    | last :: _ => x.2 ≤ last.2
  if blocked then none
  else ((hangulPair? p.starter x.1).or (Decomposition.pairOf? p.starter x.1)).map
    fun whole => ⟨whole, p.marks⟩

/-- Composes the code points behind a starter. -/
def composeAfter (p : Pending) : List (Nat × Nat) → List Nat
  | [] => p.toList
  | x :: xs =>
    match p.absorb? x with
    | some q => composeAfter q xs
    | none =>
      if x.2 = 0 then p.toList ++ composeAfter ⟨x.1, []⟩ xs
      else composeAfter ⟨p.starter, x :: p.marks⟩ xs

/-- Composes ordered code points; marks in front of the first starter stand. -/
def compose : List (Nat × Nat) → List Nat
  | [] => []
  | x :: xs => if x.2 = 0 then composeAfter ⟨x.1, []⟩ xs else x.1 :: compose xs

/-- The composed form. -/
def composed (xs : List Nat) : List Nat := compose (ordered (xs.flatMap (parts 8)))

end Formwork.Normal
