/-! # Octets and UTF-8

Texts travel as octets and come back as characters. `Utf8.encode` writes the
octets of a text; `Utf8.decode?` accepts exactly well-formed octets, and
`Utf8.decodeLossy` puts one replacement character for every maximal malformed
stretch. Both readers are views of one scan, `Utf8.scan`, which cuts any octet
sequence into characters and malformed stretches.
-/

namespace Formwork

/-- A sequence of octets. -/
abbrev Bytes := List UInt8

namespace Utf8

/-- The octets of a character. -/
def encodeChar (c : Char) : Bytes := String.utf8EncodeChar c

/-- The octets of a list of characters. -/
def encodeChars (cs : List Char) : Bytes := cs.flatMap encodeChar

/-- The octets of a text. -/
def encode (s : String) : Bytes := encodeChars s.toList

/-- Reads `count` continuation octets after a lead octet that contributed
`acc`; the first of them lies between `low` and `high`, the later ones anywhere
in the continuation range. Gives the code point, or nothing where the sequence
breaks off, and the octets not consumed. -/
def tails : Nat → Nat → Nat → Nat → Bytes → Option Nat × Bytes
  | 0, _, _, acc, rest => (some acc, rest)
  | _ + 1, _, _, _, [] => (none, [])
  | count + 1, low, high, acc, b :: rest =>
    if low ≤ b.toNat ∧ b.toNat ≤ high then
      tails count 0x80 0xBF (acc * 64 + (b.toNat - 0x80)) rest
    else (none, b :: rest)

/-- Reads the character that the lead octet `b` opens. -/
def next (b : UInt8) (rest : Bytes) : Option Nat × Bytes :=
  let n := b.toNat
  if n < 0x80 then (some n, rest)
  else if n < 0xC2 then (none, rest)
  else if n < 0xE0 then tails 1 0x80 0xBF (n - 0xC0) rest
  else if n = 0xE0 then tails 2 0xA0 0xBF 0 rest
  else if n = 0xED then tails 2 0x80 0x9F 0xD rest
  else if n < 0xF0 then tails 2 0x80 0xBF (n - 0xE0) rest
  else if n = 0xF0 then tails 3 0x90 0xBF 0 rest
  else if n < 0xF4 then tails 3 0x80 0xBF (n - 0xF0) rest
  else if n = 0xF4 then tails 3 0x80 0x8F 4 rest
  else (none, rest)

theorem tails_length_le (count low high acc : Nat) (rest : Bytes) :
    (tails count low high acc rest).2.length ≤ rest.length := by
  fun_induction tails count low high acc rest with
  | case1 => simp
  | case2 => simp
  | case3 _ _ _ _ _ _ _ ih => simp only [List.length_cons]; omega
  | case4 => simp

theorem next_length_le (b : UInt8) (rest : Bytes) : (next b rest).2.length ≤ rest.length := by
  simp only [next]
  repeat' split
  all_goals first | exact Nat.le_refl _ | exact tails_length_le ..

/-- Cuts octets into characters, with `none` for each malformed stretch. -/
def scan : Bytes → List (Option Char)
  | [] => []
  | b :: rest => (next b rest).1.map Char.ofNat :: scan (next b rest).2
termination_by bytes => bytes.length
decreasing_by exact Nat.lt_succ_of_le (next_length_le b rest)

/-- The characters of well-formed octets. -/
def decodeChars? (bytes : Bytes) : Option (List Char) := (scan bytes).mapM id

/-- The text of well-formed octets. -/
def decode? (bytes : Bytes) : Option String := (decodeChars? bytes).map String.ofList

/-- The text of any octets: each malformed stretch reads as U+FFFD. -/
def decodeLossy (bytes : Bytes) : String :=
  String.ofList ((scan bytes).map (·.getD '\uFFFD'))

@[simp] theorem scan_nil : scan [] = [] := by simp [scan]

/-- An ASCII octet is a character by itself. -/
theorem scan_cons_ascii {b : UInt8} (h : b.toNat < 0x80) (rest : Bytes) :
    scan (b :: rest) = some (Char.ofNat b.toNat) :: scan rest := by
  rw [scan]; simp [next, h]

theorem encodeChars_append (a b : List Char) :
    encodeChars (a ++ b) = encodeChars a ++ encodeChars b := by
  simp [encodeChars]

theorem encode_append (a b : String) : encode (a ++ b) = encode a ++ encode b := by
  simp [encode, encodeChars_append]

end Utf8

namespace Bytes

/-- An ASCII capital letter in lower case; every other octet unchanged. -/
def toLower (b : UInt8) : UInt8 := if 0x41 ≤ b ∧ b ≤ 0x5A then b + 0x20 else b

end Bytes

end Formwork
