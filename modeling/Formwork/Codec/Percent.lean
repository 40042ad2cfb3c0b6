import Formwork.Text.Utf8

/-! # Percent-encoding

An octet may be written as `%` and two hexadecimal digits. `decode` reads such
triples and leaves every other octet, a stray `%` included, as it stands;
`encode` writes as triples the octets that its caller does not keep. Decoding
undoes encoding whenever `%` itself is not kept: `decode_encode`.
-/

namespace Formwork.Percent

/-- The value of a hexadecimal digit, capital or small. -/
def hexValue? (b : UInt8) : Option Nat :=
  let n := b.toNat
  if 0x30 ≤ n ∧ n ≤ 0x39 then some (n - 0x30)
  else if 0x41 ≤ n ∧ n ≤ 0x46 then some (n - 0x41 + 10)
  else if 0x61 ≤ n ∧ n ≤ 0x66 then some (n - 0x61 + 10)
  else none

/-- The octet of a hexadecimal digit, in capitals. -/
def hexDigit (n : Nat) : UInt8 := UInt8.ofNat (if n < 10 then 0x30 + n else 0x41 + (n - 10))

/-- The octet that two hexadecimal digits stand for. -/
def hexPair? (high low : UInt8) : Option UInt8 :=
  match hexValue? high, hexValue? low with
  | some h, some l => some (UInt8.ofNat (h * 16 + l))
  | _, _ => none

/-- Replaces every triple of `%` and two hexadecimal digits by its octet. -/
def decode : Bytes → Bytes
  | b :: high :: low :: after =>
    if b = 0x25 then
      match hexPair? high low with
      | some octet => octet :: decode after
      | none => b :: decode (high :: low :: after)
    else b :: decode (high :: low :: after)
  | b :: rest => b :: decode rest
  | [] => []

/-- The triple of an octet. -/
def triple (b : UInt8) : Bytes := [0x25, hexDigit (b.toNat / 16), hexDigit (b.toNat % 16)]

/-- Writes every octet outside `keep` as a triple. -/
def encode (keep : UInt8 → Bool) (bytes : Bytes) : Bytes :=
  bytes.flatMap fun b => if keep b then [b] else triple b

@[simp] theorem decode_nil : decode [] = [] := by simp [decode]

theorem decode_cons_of_ne {b : UInt8} (h : b ≠ 0x25) (rest : Bytes) :
    decode (b :: rest) = b :: decode rest := by
  match rest with
  | [] => simp [decode]
  | [_] => simp [decode]
  | _ :: _ :: _ => simp [decode, h]

theorem hexPair?_hexDigit (b : UInt8) :
    hexPair? (hexDigit (b.toNat / 16)) (hexDigit (b.toNat % 16)) = some b := by
  have all : ∀ n : Fin 256, hexPair? (hexDigit (n.val / 16)) (hexDigit (n.val % 16)) =
      some (UInt8.ofNat n.val) := by decide +kernel
  simpa using all ⟨b.toNat, b.toNat_lt⟩

theorem decode_triple_append (b : UInt8) (rest : Bytes) :
    decode (triple b ++ rest) = b :: decode rest := by
  simp [triple, decode, hexPair?_hexDigit]

/-- Decoding undoes encoding when the escape mark itself is escaped. -/
theorem decode_encode {keep : UInt8 → Bool} (h : keep 0x25 = false) (bytes : Bytes) :
    decode (encode keep bytes) = bytes := by
  induction bytes with
  | nil => simp [encode]
  | cons b rest ih =>
    simp only [encode, List.flatMap_cons] at ih ⊢
    by_cases hb : keep b = true
    · have hne : b ≠ 0x25 := by rintro rfl; simp [h] at hb
      simp [hb, decode_cons_of_ne hne, ih]
    · simp [hb, decode_triple_append, ih]

end Formwork.Percent
