import Formwork.Codec.FormPairs
import Formwork.Proofs.Text.Cut
import Formwork.Proofs.Text.Utf8

/-! # Reading url-encoded pairs back

What is written for pairs reads as the same pairs in the same order (`read_write`). An
encoded key or value holds neither of the marks between them, so the cuts find the parts
again; and within a part blanks, escapes and UTF-8 are undone one after the other. All
octets are plain ASCII, so that the same holds of the pairs as a text.
-/

namespace Formwork

namespace Percent

/-- An octet of an encoded text was kept, or belongs to a triple. -/
theorem of_mem_encode {keep : UInt8 → Bool} {bytes : Bytes} {b : UInt8}
    (h : b ∈ encode keep bytes) : keep b = true ∨ b = 0x25 ∨ ∃ n < 16, b = hexDigit n := by
  obtain ⟨x, _, hb⟩ := List.mem_flatMap.1 h
  by_cases hk : keep x = true
  · rw [if_pos hk, List.mem_singleton] at hb
    exact .inl (hb ▸ hk)
  · rw [if_neg hk, triple] at hb
    have hx := x.toNat_lt
    rcases List.mem_cons.1 hb with rfl | hb
    · exact .inr (.inl rfl)
    · rcases List.mem_cons.1 hb with rfl | hb
      · exact .inr (.inr ⟨x.toNat / 16, by omega, rfl⟩)
      · cases List.mem_singleton.1 hb
        exact .inr (.inr ⟨x.toNat % 16, by omega, rfl⟩)

end Percent

namespace FormPairs

/-- An octet of an encoded key or value. -/
def isPartOctet (b : UInt8) : Bool := isPlain b || b == 0x25 || b == 0x2B

theorem isPlain_hexDigit {n : Nat} (h : n < 16) : isPlain (Percent.hexDigit n) = true := by
  have all : ∀ n : Fin 16, isPlain (Percent.hexDigit n) = true := by decide
  exact all ⟨n, h⟩

/-- Before blanks are written as `+`, there is none of these. -/
theorem of_mem_escaped {bytes : Bytes} {b : UInt8}
    (h : b ∈ Percent.encode (fun b => isPlain b || b == 0x20) bytes) :
    isPlain b = true ∨ b = 0x20 ∨ b = 0x25 := by
  rcases Percent.of_mem_encode h with hk | rfl | ⟨n, hn, rfl⟩
  · rcases Bool.or_eq_true_iff.1 hk with hk | hk
    · exact .inl hk
    · exact .inr (.inl (beq_iff_eq.1 hk))
  · exact .inr (.inr rfl)
  · exact .inl (isPlain_hexDigit hn)

theorem isPartOctet_of_mem {s : String} {b : UInt8} (h : b ∈ writePart s) :
    isPartOctet b = true := by
  obtain ⟨x, hx, rfl⟩ := List.mem_map.1 h
  rcases of_mem_escaped hx with hp | rfl | rfl
  · by_cases hb : x = 0x20
    · rw [if_pos hb]
      rfl
    · rw [if_neg hb, isPartOctet, hp]
      rfl
  · rfl
  · rfl

theorem not_mem_writePart {b : UInt8} (hb : isPartOctet b = false) (s : String) :
    b ∉ writePart s := by
  intro h
  rw [isPartOctet_of_mem h] at hb
  cases hb

theorem readPart_writePart (s : String) : readPart (writePart s) = s := by
  have hblank : (writePart s).map (fun b => if b = 0x2B then 0x20 else b) =
      Percent.encode (fun b => isPlain b || b == 0x20) (Utf8.encode s) := by
    rw [writePart, List.map_map]
    refine (List.map_congr_left fun b hb => ?_).trans (List.map_id _)
    have hplus : b ≠ 0x2B := by
      rintro rfl
      rcases of_mem_escaped hb with h | h | h <;> cases h
    by_cases hspace : b = 0x20
    · simp [hspace]
    · simp [hspace, hplus]
  rw [readPart, hblank, Percent.decode_encode (by decide), Utf8.decodeLossy_encode]

theorem readPiece_writePair (pair : String × String) : readPiece (writePair pair) = pair := by
  have hfree : ∀ b ∈ writePart pair.1, (b == 0x3D) = false :=
    Cut.beq_eq_false_of_not_mem (not_mem_writePart (by decide) pair.1)
  rw [readPiece, writePair, Cut.atFirst?_append (by decide) hfree]
  dsimp only
  rw [readPart_writePart, readPart_writePart]

theorem not_mem_writePair (pair : String × String) : (0x26 : UInt8) ∉ writePair pair := by
  intro h
  rcases List.mem_append.1 h with h | h
  · exact not_mem_writePart (by decide) pair.1 h
  · rcases List.mem_cons.1 h with h | h
    · cases h
    · exact not_mem_writePart (by decide) pair.2 h

/-- Pairs are read back in order, whatever texts they hold. -/
theorem read_write (pairs : List (String × String)) : read (write pairs) = pairs := by
  cases hp : pairs with
  | nil => rfl
  | cons first others =>
      rw [← hp]
      have hne : pairs.map writePair ≠ [] := by simp [hp]
      have hfree : ∀ piece ∈ pairs.map writePair, ∀ b ∈ piece, (b == 0x26) = false := by
        intro piece hm
        obtain ⟨pair, _, rfl⟩ := List.mem_map.1 hm
        exact Cut.beq_eq_false_of_not_mem (not_mem_writePair pair)
      -- every piece holds the mark between its key and its value
      have hfull : (pairs.map writePair).filter (fun piece => !piece.isEmpty) =
          pairs.map writePair := by
        rw [List.filter_eq_self]
        intro piece hm
        obtain ⟨pair, _, rfl⟩ := List.mem_map.1 hm
        simp [writePair]
      rw [read, write, Cut.cutAt_joinWith (by decide) hne hfree, hfull, List.map_map]
      calc pairs.map (readPiece ∘ writePair) = pairs.map id :=
            List.map_congr_left fun pair _ => readPiece_writePair pair
        _ = pairs := List.map_id _

/-! ## Encoded pairs as a text -/

/-- Pairs, encoded as a text. -/
def writeText (pairs : List (String × String)) : String :=
  String.ofList ((write pairs).map fun b => Char.ofNat b.toNat)

/-- An octet of encoded pairs. -/
def isWritten (b : UInt8) : Bool := isPartOctet b || b == 0x26 || b == 0x3D

theorem isWritten_of_mem_writePair {pair : String × String} {b : UInt8} (h : b ∈ writePair pair) :
    isWritten b = true := by
  rcases List.mem_append.1 h with h | h
  · simp [isWritten, isPartOctet_of_mem h]
  · rcases List.mem_cons.1 h with rfl | h
    · rfl
    · simp [isWritten, isPartOctet_of_mem h]

theorem isWritten_of_mem_write {pairs : List (String × String)} {b : UInt8}
    (h : b ∈ write pairs) : isWritten b = true := by
  induction pairs with
  | nil => cases h
  | cons first others ih =>
      cases others with
      | nil => exact isWritten_of_mem_writePair h
      | cons second others =>
          rcases List.mem_append.1 h with h | h
          · exact isWritten_of_mem_writePair h
          · rcases List.mem_cons.1 h with rfl | h
            · rfl
            · exact ih h

/-- What holds of the characters of all octets that can be written holds of those of a text. -/
theorem forall_mem_writeText {P : Char → Prop}
    (h : ∀ n : Fin 256, isWritten (UInt8.ofNat n) = true → P (Char.ofNat n))
    (pairs : List (String × String)) : ∀ c ∈ (writeText pairs).toList, P c := by
  intro c hc
  rw [writeText, String.toList_ofList] at hc
  obtain ⟨b, hb, rfl⟩ := List.mem_map.1 hc
  apply h ⟨b.toNat, b.toNat_lt⟩
  rw [UInt8.ofNat_toNat]
  exact isWritten_of_mem_write hb

theorem isPrintableText_writeText (pairs : List (String × String)) :
    Header.IsPrintableText (writeText pairs) :=
  forall_mem_writeText (by decide +kernel) pairs

/-- The octets of the text are the encoded pairs. -/
theorem encode_writeText (pairs : List (String × String)) :
    Utf8.encode (writeText pairs) = write pairs := by
  rw [Header.encode_of_isPrintable (isPrintableText_writeText pairs), writeText,
    String.toList_ofList, List.map_map]
  have hoctet : ∀ n : Fin 256, UInt8.ofNat (Char.ofNat n).toNat = UInt8.ofNat n := by
    decide +kernel
  calc (write pairs).map _ = (write pairs).map id := by
        apply List.map_congr_left
        intro b _
        have hb := hoctet ⟨b.toNat, b.toNat_lt⟩
        simpa using hb
    _ = write pairs := List.map_id _

end FormPairs

end Formwork
