import Formwork.Http.Header

/-! # UTF-8 round trips

Reading the octets of a text gives the text back, so that no two texts have the same
octets. The scan behind the readers takes one character at a time, and the round trip
follows it: first one character in front of anything, then a list of characters. For
printable ASCII the octets are also a header value that reads as the text.
-/

namespace Formwork

namespace Utf8

/-! ## One character -/

/-- The library's lemma, with a bound that arithmetic sees. -/
theorem toNat_ofNat_of_lt {n : Nat} (h : n < 256) : (UInt8.ofNat n).toNat = n :=
  UInt8.toNat_ofNat_of_lt' h

/-- A continuation octet within its bounds adds six bits. -/
theorem tails_succ {count low high acc n : Nat} (hl : low ≤ n + 0x80) (hh : n + 0x80 ≤ high)
    (hn : n < 0x40) (rest : Bytes) :
    tails (count + 1) low high acc (UInt8.ofNat (n + 0x80) :: rest) =
      tails count 0x80 0xBF (acc * 64 + n) rest := by
  have hb : (UInt8.ofNat (n + 0x80)).toNat = n + 0x80 := toNat_ofNat_of_lt (by omega)
  simp only [tails, hb, hl, hh, and_self, if_true, Nat.add_sub_cancel]

theorem next_two {v : Nat} (hl : 0x80 ≤ v) (hh : v < 0x800) (rest : Bytes) :
    next (UInt8.ofNat (v / 64 % 0x20 + 0xC0)) (UInt8.ofNat (v % 0x40 + 0x80) :: rest) =
      (some v, rest) := by
  have hb : (UInt8.ofNat (v / 64 % 0x20 + 0xC0)).toNat = v / 64 % 0x20 + 0xC0 :=
    toNat_ofNat_of_lt (by omega)
  have h1 : ¬ v / 64 % 0x20 + 0xC0 < 0x80 := by omega
  have h2 : ¬ v / 64 % 0x20 + 0xC0 < 0xC2 := by omega
  have h3 : v / 64 % 0x20 + 0xC0 < 0xE0 := by omega
  simp only [next, hb, h1, h2, h3, if_false, if_true, Nat.add_sub_cancel]
  rw [tails_succ (by omega) (by omega) (by omega), tails]
  have hv : v / 64 % 0x20 * 64 + v % 0x40 = v := by omega
  rw [hv]

theorem next_three {v : Nat} (hl : 0x800 ≤ v) (hh : v < 0x10000)
    (hs : v < 0xD800 ∨ 0xDFFF < v) (rest : Bytes) :
    next (UInt8.ofNat (v / 4096 % 0x10 + 0xE0))
        (UInt8.ofNat (v / 64 % 0x40 + 0x80) :: UInt8.ofNat (v % 0x40 + 0x80) :: rest) =
      (some v, rest) := by
  have hb : (UInt8.ofNat (v / 4096 % 0x10 + 0xE0)).toNat = v / 4096 % 0x10 + 0xE0 :=
    toNat_ofNat_of_lt (by omega)
  have h1 : ¬ v / 4096 % 0x10 + 0xE0 < 0x80 := by omega
  have h2 : ¬ v / 4096 % 0x10 + 0xE0 < 0xC2 := by omega
  have h3 : ¬ v / 4096 % 0x10 + 0xE0 < 0xE0 := by omega
  have h4 : v / 4096 % 0x10 + 0xE0 < 0xF0 := by omega
  have hv : (v / 4096 % 0x10 * 64 + v / 64 % 0x40) * 64 + v % 0x40 = v := by omega
  simp only [next, hb, h1, h2, h3, h4, if_false, if_true, Nat.add_sub_cancel]
  split
  · rename_i h
    rw [tails_succ (by omega) (by omega) (by omega), tails_succ (by omega) (by omega) (by omega),
      tails]
    have hz : v / 4096 % 0x10 = 0 := by omega
    rw [hz] at hv
    rw [hv]
  · split
    · rename_i h
      rw [tails_succ (by omega) (by omega) (by omega),
        tails_succ (by omega) (by omega) (by omega), tails]
      have hz : v / 4096 % 0x10 = 0xD := by omega
      rw [hz] at hv
      rw [hv]
    · rw [tails_succ (by omega) (by omega) (by omega),
        tails_succ (by omega) (by omega) (by omega), tails, hv]

theorem next_four {v : Nat} (hl : 0x10000 ≤ v) (hh : v < 0x110000) (rest : Bytes) :
    next (UInt8.ofNat (v / 262144 % 0x08 + 0xF0))
        (UInt8.ofNat (v / 4096 % 0x40 + 0x80) :: UInt8.ofNat (v / 64 % 0x40 + 0x80) ::
          UInt8.ofNat (v % 0x40 + 0x80) :: rest) =
      (some v, rest) := by
  have hb : (UInt8.ofNat (v / 262144 % 0x08 + 0xF0)).toNat = v / 262144 % 0x08 + 0xF0 :=
    toNat_ofNat_of_lt (by omega)
  have h1 : ¬ v / 262144 % 0x08 + 0xF0 < 0x80 := by omega
  have h2 : ¬ v / 262144 % 0x08 + 0xF0 < 0xC2 := by omega
  have h3 : ¬ v / 262144 % 0x08 + 0xF0 < 0xE0 := by omega
  have h4 : ¬ v / 262144 % 0x08 + 0xF0 = 0xE0 := by omega
  have h5 : ¬ v / 262144 % 0x08 + 0xF0 = 0xED := by omega
  have h6 : ¬ v / 262144 % 0x08 + 0xF0 < 0xF0 := by omega
  have hv : ((v / 262144 % 0x08 * 64 + v / 4096 % 0x40) * 64 + v / 64 % 0x40) * 64 + v % 0x40 =
      v := by omega
  simp only [next, hb, h1, h2, h3, h4, h5, h6, if_false, Nat.add_sub_cancel]
  split
  · rw [tails_succ (by omega) (by omega) (by omega), tails_succ (by omega) (by omega) (by omega),
      tails_succ (by omega) (by omega) (by omega), tails]
    have hz : v / 262144 % 0x08 = 0 := by omega
    rw [hz] at hv
    rw [hv]
  · split
    · rw [tails_succ (by omega) (by omega) (by omega),
        tails_succ (by omega) (by omega) (by omega), tails_succ (by omega) (by omega) (by omega),
        tails, hv]
    · rename_i h
      have hz : v / 262144 % 0x08 = 4 := by omega
      have h7 : v / 262144 % 0x08 + 0xF0 = 0xF4 := by omega
      simp only [h7, if_true]
      rw [tails_succ (by omega) (by omega) (by omega),
        tails_succ (by omega) (by omega) (by omega), tails_succ (by omega) (by omega) (by omega),
        tails]
      rw [hz] at hv
      rw [hv]

/-- The octets of a character read as the character, whatever follows them. -/
theorem scan_encodeChar_append (c : Char) (rest : Bytes) :
    scan (encodeChar c ++ rest) = some c :: scan rest := by
  have hc : c.toNat < 0xD800 ∨ 0xDFFF < c.toNat ∧ c.toNat < 0x110000 := c.valid
  have hr : Char.ofNat c.toNat = c := Char.ofNat_toNat c
  have hd : encodeChar c = String.utf8EncodeChar c := rfl
  rw [hd, String.utf8EncodeChar]
  have hv : c.val.toNat = c.toNat := rfl
  simp only [hv]
  split
  · have hb : (UInt8.ofNat c.toNat).toNat = c.toNat := toNat_ofNat_of_lt (by omega)
    rw [List.singleton_append, scan_cons_ascii (by omega), hb, hr]
  · split
    · rw [List.cons_append, List.cons_append, List.nil_append, scan,
        next_two (by omega) (by omega), Option.map_some, hr]
    · split
      · rw [List.cons_append, List.cons_append, List.cons_append, List.nil_append, scan,
          next_three (by omega) (by omega) (by omega), Option.map_some, hr]
      · rw [List.cons_append, List.cons_append, List.cons_append, List.cons_append,
          List.nil_append, scan, next_four (by omega) (by omega), Option.map_some, hr]

/-! ## Texts -/

theorem encodeChars_cons (c : Char) (cs : List Char) :
    encodeChars (c :: cs) = encodeChar c ++ encodeChars cs := rfl

theorem scan_encodeChars (cs : List Char) : scan (encodeChars cs) = cs.map some := by
  induction cs with
  | nil => simp [encodeChars]
  | cons c cs ih =>
      rw [encodeChars_cons, scan_encodeChar_append, ih, List.map_cons]

theorem decodeChars?_encodeChars (cs : List Char) : decodeChars? (encodeChars cs) = some cs := by
  rw [decodeChars?, scan_encodeChars]
  induction cs with
  | nil => rfl
  | cons c cs ih => simp [List.mapM_cons, ih]

/-- Reading undoes writing. -/
theorem decode?_encode (s : String) : decode? (encode s) = some s := by
  rw [decode?, encode, decodeChars?_encodeChars, Option.map_some, String.ofList_toList]

/-- Nothing in the octets of a text is malformed. -/
theorem decodeLossy_encode (s : String) : decodeLossy (encode s) = s := by
  rw [decodeLossy, encode, scan_encodeChars, List.map_map]
  exact (congrArg String.ofList (List.map_id _)).trans String.ofList_toList

/-- Texts with the same octets are the same. -/
theorem encode_injective {s t : String} (h : encode s = encode t) : s = t := by
  have hs : decode? (encode t) = some s := by rw [← h, decode?_encode]
  rw [decode?_encode] at hs
  exact (Option.some.inj hs).symm

/-! ## ASCII in a text -/

/-- An octet below 0x80 is a whole character. -/
theorem eq_of_mem_encodeChar {c : Char} {b : UInt8} (h : b ∈ encodeChar c) (hb : b.toNat < 0x80) :
    encodeChar c = [b] ∧ c.toNat = b.toNat := by
  have hv : c.val.toNat = c.toNat := rfl
  have hd : encodeChar c = String.utf8EncodeChar c := rfl
  have hc : c.toNat < 0x110000 := by
    have := c.valid
    have hr : c.toNat < 0xD800 ∨ 0xDFFF < c.toNat ∧ c.toNat < 0x110000 := this
    omega
  rw [hd, String.utf8EncodeChar] at h ⊢
  simp only [hv] at h ⊢
  by_cases h1 : c.toNat ≤ 0x7F
  · rw [if_pos h1, List.mem_singleton] at h
    subst h
    rw [if_pos h1]
    exact ⟨rfl, (toNat_ofNat_of_lt (by omega)).symm⟩
  · -- all octets of a longer character are beyond
    have hlead : ∀ n, n < 0x80 → ∀ low, 0x80 ≤ low → low + n < 256 → b ≠ UInt8.ofNat (n + low) := by
      rintro n _ low _ _ rfl
      rw [toNat_ofNat_of_lt (by omega)] at hb
      omega
    rw [if_neg h1] at h
    exfalso
    split at h
    · simp only [List.mem_cons, List.not_mem_nil, or_false] at h
      rcases h with h | h
      · exact hlead _ (by omega) 0xC0 (by omega) (by omega) h
      · exact hlead _ (by omega) 0x80 (by omega) (by omega) h
    · split at h
      · simp only [List.mem_cons, List.not_mem_nil, or_false] at h
        rcases h with h | h | h
        · exact hlead _ (by omega) 0xE0 (by omega) (by omega) h
        · exact hlead _ (by omega) 0x80 (by omega) (by omega) h
        · exact hlead _ (by omega) 0x80 (by omega) (by omega) h
      · simp only [List.mem_cons, List.not_mem_nil, or_false] at h
        rcases h with h | h | h | h
        · exact hlead _ (by omega) 0xF0 (by omega) (by omega) h
        · exact hlead _ (by omega) 0x80 (by omega) (by omega) h
        · exact hlead _ (by omega) 0x80 (by omega) (by omega) h
        · exact hlead _ (by omega) 0x80 (by omega) (by omega) h

theorem encodeChar_of_lt {c : Char} (h : c.toNat < 0x80) :
    encodeChar c = [UInt8.ofNat c.toNat] := by
  have hv : c.val.toNat = c.toNat := rfl
  have hle : c.toNat ≤ 0x7F := by omega
  simp only [encodeChar, String.utf8EncodeChar, hv, hle, if_true]

theorem encodeChar_ne_nil (c : Char) : encodeChar c ≠ [] := by
  unfold encodeChar String.utf8EncodeChar
  dsimp only
  split
  · simp
  · split
    · simp
    · split <;> simp

variable {ascii cs : List Char}

theorem prefix_of_encodeChars (ha : ∀ c ∈ ascii, c.toNat < 0x80)
    (h : encodeChars ascii <+: encodeChars cs) : ascii <+: cs := by
  induction ascii generalizing cs with
  | nil => exact List.nil_prefix
  | cons c ascii ih =>
      rw [List.forall_mem_cons] at ha
      rw [encodeChars_cons, encodeChar_of_lt ha.1, List.singleton_append] at h
      have hb : (UInt8.ofNat c.toNat).toNat = c.toNat := toNat_ofNat_of_lt (by omega)
      cases cs with
      | nil => cases List.prefix_nil.1 h
      | cons d cs =>
          rw [encodeChars_cons] at h
          have hmem : UInt8.ofNat c.toNat ∈ encodeChar d := by
            cases he : encodeChar d with
            | nil => exact absurd he (encodeChar_ne_nil d)
            | cons b bs =>
                rw [he, List.cons_append, List.cons_prefix_cons] at h
                exact h.1 ▸ List.mem_cons_self
          obtain ⟨hd, hn⟩ := eq_of_mem_encodeChar hmem (by omega)
          rw [hd, List.singleton_append, List.cons_prefix_cons] at h
          rw [hb] at hn
          cases Char.toNat_inj.1 hn
          exact List.cons_prefix_cons.2 ⟨rfl, ih ha.2 h.2⟩
/-- ASCII characters stand in a text where their octets stand in its octets. -/
theorem infix_of_encodeChars (ha : ∀ c ∈ ascii, c.toNat < 0x80)
    (h : encodeChars ascii <:+: encodeChars cs) : ascii <:+: cs := by
  cases hascii : ascii with
  | nil => exact List.nil_infix
  | cons c rest =>
  rw [← hascii]
  have hc : c.toNat < 0x80 := ha c (by simp [hascii])
  obtain ⟨front, back, h⟩ := h
  induction cs generalizing front with
  | nil => simp [encodeChar_of_lt hc, hascii, encodeChars] at h
  | cons d cs ih =>
      cases front with
      | nil =>
          have hp : encodeChars ascii <+: encodeChars (d :: cs) := ⟨back, h⟩
          exact (prefix_of_encodeChars ha hp).isInfix
      | cons b front =>
          -- the octets of the first character end in what stands in front
          rw [encodeChars_cons, List.append_assoc, List.append_eq_append_iff] at h
          rcases h with ⟨more, hd, hrest⟩ | ⟨more, hfront, hrest⟩
          · cases more with
            | nil =>
                have hi := ih [] (by rw [List.nil_append, hrest, List.nil_append])
                exact hi.trans (List.suffix_cons d cs).isInfix
            | cons x more =>
                rw [hascii, encodeChars_cons, encodeChar_of_lt hc] at hrest
                have hx : x = UInt8.ofNat c.toNat := (List.cons.inj hrest).1.symm
                have hmem : x ∈ encodeChar d := by simp [hd]
                have hsmall : x.toNat < 0x80 := by
                  rw [hx, toNat_ofNat_of_lt (by omega)]
                  exact hc
                rw [(eq_of_mem_encodeChar hmem hsmall).1] at hd
                have hlength := congrArg List.length hd
                simp at hlength
          · have hi := ih more (by rw [hrest, List.append_assoc])
            exact hi.trans (List.suffix_cons d cs).isInfix

end Utf8

/-! ## Printable ASCII -/

namespace Header

/-- A printable ASCII character. -/
def IsPrintable (c : Char) : Prop := 32 ≤ c.toNat ∧ c.toNat < 127

instance (c : Char) : Decidable (IsPrintable c) := inferInstanceAs (Decidable (_ ∧ _))

/-- A text of printable ASCII characters. -/
def IsPrintableText (s : String) : Prop := ∀ c ∈ s.toList, IsPrintable c

instance (s : String) : Decidable (IsPrintableText s) :=
  List.decidableBAll IsPrintable s.toList

theorem IsPrintableText.append {s t : String} (hs : IsPrintableText s) (ht : IsPrintableText t) :
    IsPrintableText (s ++ t) := by
  intro c hc
  rw [String.toList_append] at hc
  rcases List.mem_append.1 hc with hc | hc
  · exact hs c hc
  · exact ht c hc

/-- Printable octets that stand in a text stand there as characters. -/
theorem IsPrintableText.infix_of_encode {s t : String} (hs : IsPrintableText s)
    (h : Utf8.encode s <:+: Utf8.encode t) : s.toList <:+: t.toList := by
  apply Utf8.infix_of_encodeChars _ h
  intro c hc
  have := (hs c hc).2
  omega

theorem encodeChar_of_isPrintable {c : Char} (h : IsPrintable c) :
    Utf8.encodeChar c = [UInt8.ofNat c.toNat] :=
  Utf8.encodeChar_of_lt (by have := h.2; omega)

theorem encode_of_isPrintable {s : String} (h : IsPrintableText s) :
    Utf8.encode s = s.toList.map fun c => UInt8.ofNat c.toNat := by
  rw [Utf8.encode, Utf8.encodeChars, List.flatMap_def,
    List.map_congr_left fun c hc => encodeChar_of_isPrintable (h c hc)]
  induction s.toList with
  | nil => rfl
  | cons c cs ih => rw [List.map_cons, List.flatten_cons, ih, List.map_cons, List.singleton_append]

theorem toNat_of_isPrintable {c : Char} (h : IsPrintable c) :
    (UInt8.ofNat c.toNat).toNat = c.toNat :=
  Utf8.toNat_ofNat_of_lt (by have := h.2; omega)

/-- Printable text can be a header value. -/
theorem isValue_encode {s : String} (h : IsPrintableText s) :
    isValue (Utf8.encode s) = true := by
  rw [encode_of_isPrintable h, isValue, List.all_map, List.all_eq_true]
  intro c hc
  have hb := toNat_of_isPrintable (h c hc)
  obtain ⟨hl, hh⟩ := h c hc
  simp only [Function.comp_apply, isValueOctet, UInt8.le_iff_toNat_le, bne_iff_ne, ne_eq,
    ← UInt8.toNat_inj, hb, Bool.or_eq_true, Bool.and_eq_true, decide_eq_true_eq]
  left
  exact ⟨hl, by simp; omega⟩

theorem map_encode {s : String} (h : IsPrintableText s) :
    (Utf8.encode s).map (fun b => Char.ofNat b.toNat) = s.toList := by
  rw [encode_of_isPrintable h, List.map_map]
  calc s.toList.map _ = s.toList.map id :=
        List.map_congr_left fun c hc => by
          simp [toNat_of_isPrintable (h c hc), Char.ofNat_toNat]
    _ = s.toList := List.map_id _

/-- Printable text is read back from a header value. -/
theorem visibleText?_encode {s : String} (h : IsPrintableText s) :
    visibleText? (Utf8.encode s) = some s := by
  have hall : (Utf8.encode s).all (fun b => (32 ≤ b && b < 127) || b = 9) = true := by
    rw [encode_of_isPrintable h, List.all_map, List.all_eq_true]
    intro c hc
    have hb := toNat_of_isPrintable (h c hc)
    obtain ⟨hl, hh⟩ := h c hc
    simp [UInt8.le_iff_toNat_le, UInt8.lt_iff_toNat_lt, hb, hl, hh]
  rw [visibleText?, if_pos hall, map_encode h, String.ofList_toList]

end Header

end Formwork
