import Formwork.Codec.Base64Url
import Formwork.Proofs.Text.Utf8

/-! # The Base64 round trip

`decode?` gives back what `encode` was given: group by group on the side of the six-bit
values, letter by letter on the side of the alphabet. A text that can be decoded, and
hence every encoded text, holds letters of the alphabet only: no separator that a
cookie uses is among them.
-/

namespace Formwork.Base64Url

/-- A letter of the alphabet. -/
def IsLetter (c : Char) : Prop := (value? c).isSome = true

instance (c : Char) : Decidable (IsLetter c) := inferInstanceAs (Decidable (_ = _))

/-- Letters are printable, and neither separators of cookies nor quotation marks. -/
theorem IsLetter.plain {c : Char} (h : IsLetter c) :
    Header.IsPrintable c ∧ c ≠ ' ' ∧ c ≠ '"' ∧ c ≠ '.' ∧ c ≠ ';' ∧ c ≠ '=' ∧ c ≠ '|' := by
  have hrange : (0x41 ≤ c.toNat ∧ c.toNat ≤ 0x5A) ∨ (0x61 ≤ c.toNat ∧ c.toNat ≤ 0x7A) ∨
      (0x30 ≤ c.toNat ∧ c.toNat ≤ 0x39) ∨ c.toNat = 0x2D ∨ c.toNat = 0x5F := by
    simp only [IsLetter, value?] at h
    split at h
    · omega
    · split at h
      · omega
      · split at h
        · omega
        · split at h
          · rename_i hc
            subst hc
            decide
          · split at h
            · rename_i hc
              subst hc
              decide
            · cases h
  have hne : ∀ d : Char, c.toNat ≠ d.toNat → c ≠ d := fun d hd e => hd (e ▸ rfl)
  refine ⟨?_, hne _ ?_, hne _ ?_, hne _ ?_, hne _ ?_, hne _ ?_, hne _ ?_⟩
  · unfold Header.IsPrintable
    omega
  all_goals
    simp only [Char.reduceToNat]
    omega

/-- Every ASCII letter and digit is a letter of the alphabet. -/
theorem isLetter_of_isAsciiAlnum {c : Char} (h : CharClass.isAsciiAlnum c = true) :
    IsLetter c := by
  simp only [CharClass.isAsciiAlnum, CharClass.isAsciiLetter, CharClass.isAsciiDigit,
    Bool.or_eq_true, Bool.and_eq_true, decide_eq_true_eq, Char.le_def,
    UInt32.le_iff_toNat_le] at h
  unfold IsLetter value?
  rcases h with (⟨hl, hh⟩ | h) | h
  · have hl' : 0x61 ≤ c.toNat := hl
    have hupper : ¬ (0x41 ≤ c.toNat ∧ c.toNat ≤ 0x5A) := by omega
    simp only [hupper, if_false, if_pos (show 0x61 ≤ c.toNat ∧ c.toNat ≤ 0x7A from ⟨hl, hh⟩),
      Option.isSome_some]
  · simp only [if_pos (show 0x41 ≤ c.toNat ∧ c.toNat ≤ 0x5A from h), Option.isSome_some]
  · have hh : c.toNat ≤ 0x39 := h.2
    have hupper : ¬ (0x41 ≤ c.toNat ∧ c.toNat ≤ 0x5A) := by omega
    have hlower : ¬ (0x61 ≤ c.toNat ∧ c.toNat ≤ 0x7A) := by omega
    simp only [hupper, hlower, if_false, if_pos (show 0x30 ≤ c.toNat ∧ c.toNat ≤ 0x39 from h),
      Option.isSome_some]

/-! ## Six-bit values -/

theorem sextets_lt {bytes : Bytes} {n : Nat} (h : n ∈ sextets bytes) : n < 64 := by
  fun_induction sextets bytes with
  | case1 => cases h
  | case2 a =>
      have := a.toNat_lt
      simp only [List.mem_cons, List.not_mem_nil, or_false] at h
      omega
  | case3 a b =>
      have := a.toNat_lt
      have := b.toNat_lt
      simp only [List.mem_cons, List.not_mem_nil, or_false] at h
      omega
  | case4 a b c rest ih =>
      have := a.toNat_lt
      have := b.toNat_lt
      have := c.toNat_lt
      simp only [List.mem_cons] at h
      rcases h with h | h | h | h | h
      · omega
      · omega
      · omega
      · omega
      · exact ih h

theorem octets?_sextets (bytes : Bytes) : octets? (sextets bytes) = some bytes := by
  fun_induction sextets bytes with
  | case1 => rfl
  | case2 a =>
      have ha := a.toNat_lt
      have hz : a.toNat % 4 * 16 % 16 = 0 := by omega
      have h1 : UInt8.ofNat (a.toNat / 4 * 4 + a.toNat % 4 * 16 / 16) = a :=
        (UInt8.ofNat_eq_iff_mod_eq_toNat _ _).2 (by omega)
      simp only [octets?, hz, if_true, h1]
  | case3 a b =>
      have ha := a.toNat_lt
      have hb := b.toNat_lt
      have hz : b.toNat % 16 * 4 % 4 = 0 := by omega
      have h1 : UInt8.ofNat (a.toNat / 4 * 4 + (a.toNat % 4 * 16 + b.toNat / 16) / 16) = a :=
        (UInt8.ofNat_eq_iff_mod_eq_toNat _ _).2 (by omega)
      have h2 : UInt8.ofNat
          ((a.toNat % 4 * 16 + b.toNat / 16) % 16 * 16 + b.toNat % 16 * 4 / 4) = b :=
        (UInt8.ofNat_eq_iff_mod_eq_toNat _ _).2 (by omega)
      simp only [octets?, hz, if_true, h1, h2]
  | case4 a b c rest ih =>
      have ha := a.toNat_lt
      have hb := b.toNat_lt
      have hc := c.toNat_lt
      have h1 : UInt8.ofNat (a.toNat / 4 * 4 + (a.toNat % 4 * 16 + b.toNat / 16) / 16) = a :=
        (UInt8.ofNat_eq_iff_mod_eq_toNat _ _).2 (by omega)
      have h2 : UInt8.ofNat ((a.toNat % 4 * 16 + b.toNat / 16) % 16 * 16 +
          (b.toNat % 16 * 4 + c.toNat / 64) / 4) = b :=
        (UInt8.ofNat_eq_iff_mod_eq_toNat _ _).2 (by omega)
      have h3 : UInt8.ofNat ((b.toNat % 16 * 4 + c.toNat / 64) % 4 * 64 + c.toNat % 64) = c :=
        (UInt8.ofNat_eq_iff_mod_eq_toNat _ _).2 (by omega)
      simp only [octets?, ih, Option.map_some, h1, h2, h3]

/-! ## Letters -/

theorem mapM_value?_letters {values : List Nat} (h : ∀ n ∈ values, n < 64) :
    (values.map letter).mapM value? = some values := by
  induction values with
  | nil => rfl
  | cons n values ih =>
      have hn := value?_letter n (h n List.mem_cons_self)
      have hr := ih fun m hm => h m (List.mem_cons_of_mem _ hm)
      simp [List.mapM_cons, hn, hr]

/-- Decoding undoes encoding. -/
theorem decode?_encode (bytes : Bytes) : decode? (encode bytes) = some bytes := by
  rw [decode?, encode, String.toList_ofList, mapM_value?_letters fun _ h => sextets_lt h,
    Option.bind_some, octets?_sextets]

theorem isLetter_of_mapM_eq_some {cs : List Char} {values : List Nat}
    (h : cs.mapM value? = some values) : ∀ c ∈ cs, IsLetter c := by
  induction cs generalizing values with
  | nil => intro c hc; cases hc
  | cons d cs ih =>
      simp only [List.mapM_cons, Option.bind_eq_bind, Option.bind_eq_some_iff] at h
      obtain ⟨n, hd, rest, hr, _⟩ := h
      intro c hc
      rcases List.mem_cons.1 hc with rfl | hc
      · simp [IsLetter, hd]
      · exact ih hr c hc

/-- A text that can be decoded holds letters only. -/
theorem isLetter_of_decode? {s : String} {bytes : Bytes} (h : decode? s = some bytes) :
    ∀ c ∈ s.toList, IsLetter c := by
  obtain ⟨values, hv, _⟩ := Option.bind_eq_some_iff.1 h
  exact isLetter_of_mapM_eq_some hv

/-- An encoded text holds letters only. -/
theorem isLetter_of_mem_encode {bytes : Bytes} : ∀ c ∈ (encode bytes).toList, IsLetter c :=
  isLetter_of_decode? (decode?_encode bytes)

end Formwork.Base64Url
