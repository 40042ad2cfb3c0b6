import Formwork.Codec.Percent
import Formwork.Text.Cut

/-! # Url-encoded pairs

The format `application/x-www-form-urlencoded`: pairs joined by `&`, key and
value joined by `=`, blanks written as `+` and all but a few octets
percent-encoded. Reading accepts anything: a piece without `=` is a key with an
empty value, an empty piece is no pair, and malformed UTF-8 reads as U+FFFD.
-/

namespace Formwork.FormPairs

/-- The octets written as themselves: ASCII letters and digits, `*`, `-`, `.`
and `_`. -/
def isPlain (b : UInt8) : Bool :=
  let n := b.toNat
  (0x30 ≤ n && n ≤ 0x39) || (0x41 ≤ n && n ≤ 0x5A) || (0x61 ≤ n && n ≤ 0x7A) ||
    n == 0x2A || n == 0x2D || n == 0x2E || n == 0x5F

/-- Reads a key or a value: `+` is a blank, triples are octets. -/
def readPart (bytes : Bytes) : String :=
  Utf8.decodeLossy (Percent.decode (bytes.map fun b => if b = 0x2B then 0x20 else b))

/-- Writes a key or a value. -/
def writePart (s : String) : Bytes :=
  (Percent.encode (fun b => isPlain b || b == 0x20) (Utf8.encode s)).map fun b =>
    if b = 0x20 then 0x2B else b

/-- Reads one piece between ampersands. -/
def readPiece (piece : Bytes) : String × String :=
  match Cut.atFirst? (· == 0x3D) piece with
  | some (key, value) => (readPart key, readPart value)
  | none => (readPart piece, readPart [])

/-- The pairs of an encoded text, in order. -/
def read (bytes : Bytes) : List (String × String) :=
  ((Cut.cutAt (· == 0x26) bytes).filter fun piece => !piece.isEmpty).map readPiece

/-- One pair, encoded. -/
def writePair (pair : String × String) : Bytes := writePart pair.1 ++ 0x3D :: writePart pair.2

/-- Pairs, encoded. -/
def write (pairs : List (String × String)) : Bytes := Cut.joinWith 0x26 (pairs.map writePair)

end Formwork.FormPairs
