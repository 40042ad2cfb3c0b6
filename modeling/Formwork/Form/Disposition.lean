import Formwork.Text.Cut
import Formwork.Text.Utf8

/-! # Dispositions of parts

The header of a part that names its field and, for a file, the file. A value is
quoted, with `\"` for a quotation mark, or runs to a semicolon or blank. The
disposition itself has no bearing.
-/

namespace Formwork.Disposition

/-- ASCII white space. -/
def isSpace (b : UInt8) : Bool := b = 0x20 || b = 0x09 || b = 0x0A || b = 0x0C || b = 0x0D

/-- Reads an octet behind white space. -/
def behind? (octet : UInt8) (bytes : Bytes) : Option Bytes :=
  match bytes.dropWhile isSpace with
  | b :: rest => if b = octet then some rest else none
  | [] => none

/-- What follows the first occurrence of a name that begins a parameter: it
stands in front, behind white space or a semicolon, or directly behind an
occurrence that does not. `skip` octets belong to such an occurrence, and
`before` is the octet in front. -/
def behindName? (name : Bytes) (skip : Nat) (before : UInt8) : Bytes → Option Bytes
  | [] => none
  | b :: rest =>
    if 0 < skip then behindName? name (skip - 1) (if skip = 1 then 0x3B else b) rest
    else match name.isPrefixOf? (b :: rest) with
      | some after =>
        if isSpace before || before = 0x3B then some after
        else behindName? name (name.length - 1) b rest
      | none => behindName? name 0 b rest

/-- The octets up to the closing quotation mark; one behind a backslash does not
close. -/
def quoted? : (escaped : Bool) → Bytes → Option Bytes
  | _, [] => none
  | escaped, b :: rest =>
    if b = 0x22 ∧ !escaped then some []
    else (quoted? (b = 0x5C) rest).map (b :: ·)

/-- With every escaped quotation mark put plainly. -/
def unescape : Bytes → Bytes
  | 0x5C :: 0x22 :: rest => 0x22 :: unescape rest
  | b :: rest => b :: unescape rest
  | [] => []

/-- The value of a parameter. -/
def parameter? (name : String) (header : Bytes) : Option String := do
  let after ← behindName? (Utf8.encode name) 0 0x3B header
  let value ← behind? 0x3D after
  match behind? 0x22 value with
  | some rest => (quoted? false rest).bind fun inside => Utf8.decode? (unescape inside)
  | none => Utf8.decode? ((value.dropWhile isSpace).takeWhile fun b => b != 0x3B && b != 0x20)

end Formwork.Disposition
