/-! # Tables over code points

Two compact forms of the data of a character property. A `CodeSet` is an
inversion list: the code points at which membership changes, in ascending order,
so a code point belongs to the set when the number of changes up to it is odd.
A `CodeTable` holds rows of numbers that are headed by a code point, in
ascending order; the row in force at a code point is the last whose head does
not exceed it. Both are written as text in hexadecimal.
-/

namespace Formwork

/-- How many indices between `low` and `high` satisfy `p`, added to `low`; the
indices that satisfy it come first. -/
def countWhile (p : Nat → Bool) (low high : Nat) : Nat :=
  if h : low < high then
    let mid := (low + high) / 2
    if p mid then countWhile p (mid + 1) high else countWhile p low mid
  else low
termination_by high - low

/-- The value of a hexadecimal digit in capitals. -/
def hexCapitalValue (c : Char) : Nat :=
  if c.isDigit then c.toNat - '0'.toNat else c.toNat - 'A'.toNat + 10

/-- What has been read of a text of hexadecimal numbers: the rows before the last
one, the numbers of that one in reverse, and the number that is being read. -/
structure HexReader where
  rows : Array (List Nat) := #[]
  row : List Nat := []
  number : Option Nat := none

namespace HexReader

/-- Ends the number. -/
def endNumber (r : HexReader) : HexReader :=
  match r.number with
  | some n => { r with row := n :: r.row, number := none }
  | none => r

/-- Ends the row. -/
def endRow (r : HexReader) : HexReader :=
  let r := r.endNumber
  { rows := r.rows.push r.row.reverse }

/-- Reads a character: a digit, a semicolon at the end of a row, or a blank. -/
def step (r : HexReader) (c : Char) : HexReader :=
  if c.isAlphanum then { r with number := some (r.number.getD 0 * 16 + hexCapitalValue c) }
  else if c == ';' then r.endRow
  else r.endNumber

/-- The rows of a text. -/
def read (s : String) : Array (List Nat) := (s.toList.foldl step {}).endRow.rows

end HexReader

/-- A set of code points, by the points at which membership changes. -/
structure CodeSet where
  changes : Array Nat

namespace CodeSet

/-- Membership of a code point. -/
def contains (s : CodeSet) (x : Nat) : Bool :=
  countWhile (fun i => s.changes.getD i 0 ≤ x) 0 s.changes.size % 2 == 1

/-- The set whose changes are written in hexadecimal. -/
def ofHex (s : String) : CodeSet := ⟨((HexReader.read s).toList.flatten).toArray⟩

end CodeSet

/-- Rows of numbers, each headed by a code point, in ascending order of heads. -/
structure CodeTable where
  rows : Array (Nat × List Nat)

namespace CodeTable

/-- The row in force at a code point: the last whose head does not exceed it. -/
def row? (t : CodeTable) (x : Nat) : Option (Nat × List Nat) :=
  match countWhile (fun i => (t.rows.getD i (0, [])).1 ≤ x) 0 t.rows.size with
  | 0 => none
  | n + 1 => t.rows[n]?

/-- The numbers of the row headed by exactly this code point. -/
def find? (t : CodeTable) (x : Nat) : Option (List Nat) :=
  match t.row? x with
  | some (head, numbers) => if head = x then some numbers else none
  | none => none

/-- Adds a row that is written as numbers, the first of them the distance of its
head from the head before it. -/
def push (t : CodeTable) : List Nat → CodeTable
  | [] => t
  | gap :: numbers =>
    let last := (t.rows.back?.map Prod.fst).getD 0
    ⟨t.rows.push (last + gap, numbers)⟩

/-- The table whose rows are written in hexadecimal: blanks between numbers, a
semicolon between rows, and each head as the distance from the one before. -/
def ofHex (s : String) : CodeTable := (HexReader.read s).foldl push ⟨#[]⟩

end CodeTable

end Formwork
