import Formwork.Form.Disposition
import Formwork.Proofs.Codec.Base64Url
import Formwork.Proofs.Text.Cut

/-! # Dispositions that were written

A disposition names a field, and a file perhaps, in quotation marks. Names of token
characters are read back. A file name is looked for by the word in front of it, which may
also stand in the name of the field: it is passed over there, unless it stands there twice
in a row (`parameter?_filename`).
-/

namespace Formwork

namespace Header

theorem isPrintable_of_isTokenChar {c : Char} (h : isTokenChar c = true) : IsPrintable c := by
  rcases Bool.or_eq_true_iff.1 h with h | h
  · exact (Base64Url.isLetter_of_isAsciiAlnum h).plain.1
  · have hall : IsPrintableText "!#$%&'*+-.^_\x60|~" := by decide
    exact hall c (List.contains_iff_mem.1 h)

/-- A text of token characters, which may be empty. -/
def IsTokenText (s : String) : Prop := ∀ c ∈ s.toList, isTokenChar c = true

instance (s : String) : Decidable (IsTokenText s) := List.decidableBAll _ s.toList

theorem IsTokenText.isPrintableText {s : String} (h : IsTokenText s) : IsPrintableText s :=
  fun c hc => isPrintable_of_isTokenChar (h c hc)

/-- What holds of the octets of all token characters holds of those of a text. -/
theorem IsTokenText.forall_mem_encode {s : String} (h : IsTokenText s) {P : UInt8 → Prop}
    (hp : ∀ n : Fin 128, isTokenChar (Char.ofNat n) = true → P (UInt8.ofNat n)) :
    ∀ b ∈ Utf8.encode s, P b := by
  rw [encode_of_isPrintable h.isPrintableText, List.forall_mem_map]
  intro c hc
  have hlt : c.toNat < 128 := by
    have := (h.isPrintableText c hc).2
    omega
  apply hp ⟨c.toNat, hlt⟩
  rw [Char.ofNat_toNat]
  exact h c hc

end Header

namespace Disposition

variable {word bytes rest : Bytes} {before : UInt8}

/-- An octet that means nothing in a disposition but itself. -/
def isPlain (b : UInt8) : Bool :=
  !isSpace b && b != 0x22 && b != 0x3B && b != 0x3D && b != 0x5C

theorem isPlain_encode {s : String} (h : Header.IsTokenText s) :
    ∀ b ∈ Utf8.encode s, isPlain b = true :=
  h.forall_mem_encode (by decide +kernel)

theorem isPlain_spec {b : UInt8} (h : isPlain b = true) :
    isSpace b = false ∧ b ≠ 0x22 ∧ b ≠ 0x3B ∧ b ≠ 0x3D ∧ b ≠ 0x5C := by
  simpa [isPlain, and_assoc] using h

/-! ## Values in quotation marks -/

theorem quoted?_append (h : ∀ b ∈ bytes, isPlain b = true) (rest : Bytes) :
    quoted? false (bytes ++ 0x22 :: rest) = some bytes := by
  induction bytes with
  | nil => rfl
  | cons b bytes ih =>
      rw [List.forall_mem_cons] at h
      obtain ⟨_, hquote, _, _, hescape⟩ := isPlain_spec h.1
      rw [List.cons_append, quoted?, if_neg (fun hb => hquote hb.1), decide_eq_false hescape,
        ih h.2]
      rfl

theorem unescape_of_isPlain (h : ∀ b ∈ bytes, isPlain b = true) : unescape bytes = bytes := by
  induction bytes with
  | nil => rfl
  | cons b bytes ih =>
      rw [List.forall_mem_cons] at h
      obtain ⟨_, _, _, _, hescape⟩ := isPlain_spec h.1
      cases bytes with
      | nil => simp [unescape]
      | cons c bytes => simp [unescape, hescape, ih h.2]

theorem parameter?_of_behindName? {parameter value : String} {header : Bytes}
    (hv : Header.IsTokenText value)
    (h : behindName? (Utf8.encode parameter) 0 0x3B header =
      some (0x3D :: 0x22 :: (Utf8.encode value ++ 0x22 :: rest))) :
    parameter? parameter header = some value := by
  have hplain := isPlain_encode hv
  have hmark : behind? 0x3D (0x3D :: 0x22 :: (Utf8.encode value ++ 0x22 :: rest)) =
      some (0x22 :: (Utf8.encode value ++ 0x22 :: rest)) := rfl
  have hquote : behind? 0x22 (0x22 :: (Utf8.encode value ++ 0x22 :: rest)) =
      some (Utf8.encode value ++ 0x22 :: rest) := rfl
  simp only [parameter?, h, Option.bind_eq_bind, Option.bind_some, hmark, hquote,
    quoted?_append hplain, unescape_of_isPlain hplain, Utf8.decode?_encode]

/-! ## The word in front of a value -/

theorem behindName?_cons {b : UInt8} (h : ¬ word <+: b :: rest) :
    behindName? word 0 before (b :: rest) = behindName? word 0 b rest := by
  rw [behindName?, Cut.isPrefixOf?_eq_none h]
  rfl

theorem behindName?_skip {skipped : Bytes} {count : Nat} (h : skipped.length = count + 1)
    (rest : Bytes) :
    behindName? word (count + 1) before (skipped ++ rest) = behindName? word 0 0x3B rest := by
  induction count generalizing skipped before with
  | zero =>
      obtain ⟨b, rfl⟩ := List.length_eq_one_iff.1 h
      rfl
  | succ count ih =>
      cases skipped with
      | nil => cases h
      | cons b skipped =>
          rw [List.length_cons, Nat.succ_inj] at h
          have hcount : ¬ count + 1 + 1 = 1 := by omega
          rw [List.cons_append, behindName?, if_pos (Nat.succ_pos _), if_neg hcount]
          exact ih h

/-- An occurrence that nothing separates from what stands in front is passed over. -/
theorem behindName?_append (hw : 1 < word.length) (hb : isSpace before = false ∧ before ≠ 0x3B)
    (rest : Bytes) :
    behindName? word 0 before (word ++ rest) = behindName? word 0 0x3B rest := by
  match word, hw with
  | b :: c :: word, _ =>
      have hp := Cut.isPrefixOf?_append (b :: c :: word) rest
      rw [List.cons_append] at hp ⊢
      rw [behindName?, hp]
      have hcond : ¬ (isSpace before || decide (before = 0x3B)) = true := by simp [hb.1, hb.2]
      simp only [Nat.lt_irrefl, if_false, hcond]
      exact behindName?_skip rfl rest

theorem behindName?_found (hw : 0 < word.length) (hb : ¬ (isSpace before = false ∧ before ≠ 0x3B))
    (rest : Bytes) : behindName? word 0 before (word ++ rest) = some rest := by
  match word, hw with
  | b :: word, _ =>
      have hp := Cut.isPrefixOf?_append (b :: word) rest
      have hcond : (isSpace before || decide (before = 0x3B)) = true := by
        by_cases hs : isSpace before = true
        · simp [hs]
        · simpa [hs] using hb
      rw [List.cons_append] at hp ⊢
      rw [behindName?, hp]
      simp only [Nat.lt_irrefl, if_false, hcond, if_true]

/-- In plain octets up to a quotation mark no word is found that stands there nowhere twice in a
row. -/
theorem behindName?_plain (hw : 1 < word.length) (hq : 0x22 ∉ word) (rest : Bytes)
    (h : ∀ b ∈ bytes, isPlain b = true) (hd : ¬ word ++ word <:+: bytes)
    (hb : word <+: bytes → isSpace before = false ∧ before ≠ 0x3B) :
    behindName? word 0 before (bytes ++ 0x22 :: rest) = behindName? word 0 0x22 rest := by
  induction hn : bytes.length using Nat.strong_induction_on generalizing bytes before with
  | _ n ih =>
  subst hn
  by_cases hfront : word <+: bytes
  · obtain ⟨others, rfl⟩ := hfront
    -- an occurrence is passed over, and there is no other directly behind it
    have hothers : ¬ word <+: others := by
      rintro ⟨last, rfl⟩
      exact hd ⟨[], last, by simp⟩
    have hshorter : others.length < (word ++ others).length := by
      rw [List.length_append]
      omega
    have hinfix : ¬ word ++ word <:+: others :=
      fun hi => hd (hi.trans (List.suffix_append word others).isInfix)
    rw [List.append_assoc, behindName?_append hw (hb (List.prefix_append word others))]
    exact ih _ hshorter (fun b hm => h b (List.mem_append_right _ hm)) hinfix
      (fun hp => absurd hp hothers) rfl
  · have hstep : ¬ word <+: bytes ++ 0x22 :: rest :=
      fun hp => hfront (Cut.prefix_of_prefix_append_cons hq hp)
    cases bytes with
    | nil => exact behindName?_cons hstep
    | cons b bytes =>
        rw [List.forall_mem_cons] at h
        obtain ⟨hspace, _, hmark, _⟩ := isPlain_spec h.1
        have hinfix : ¬ word ++ word <:+: bytes :=
          fun hi => hd (hi.trans (List.suffix_cons b bytes).isInfix)
        rw [List.cons_append] at hstep ⊢
        rw [behindName?_cons hstep]
        exact ih _ (Nat.lt_succ_self _) h.2 hinfix (fun _ => ⟨hspace, hmark⟩) rfl

/-- In plain octets up to a quotation mark a word is found, or it is looked for behind them. -/
theorem behindName?_cases (hw : 1 < word.length) (hq : 0x22 ∉ word) (rest : Bytes)
    (h : ∀ b ∈ bytes, isPlain b = true) :
    behindName? word 0 before (bytes ++ 0x22 :: rest) = behindName? word 0 0x22 rest ∨
      ∃ after, (∀ b ∈ after, isPlain b = true) ∧
        behindName? word 0 before (bytes ++ 0x22 :: rest) = some (after ++ 0x22 :: rest) := by
  induction hn : bytes.length using Nat.strong_induction_on generalizing bytes before with
  | _ n ih =>
  subst hn
  by_cases hfront : word <+: bytes
  · obtain ⟨others, rfl⟩ := hfront
    have hothers : ∀ b ∈ others, isPlain b = true := fun b hm => h b (List.mem_append_right _ hm)
    have hshorter : others.length < (word ++ others).length := by
      rw [List.length_append]
      omega
    rw [List.append_assoc]
    by_cases hb : isSpace before = false ∧ before ≠ 0x3B
    · rw [behindName?_append hw hb]
      exact ih _ hshorter hothers rfl
    · exact .inr ⟨others, hothers, behindName?_found (by omega) hb _⟩
  · have hstep : ¬ word <+: bytes ++ 0x22 :: rest :=
      fun hp => hfront (Cut.prefix_of_prefix_append_cons hq hp)
    cases bytes with
    | nil => exact .inl (behindName?_cons hstep)
    | cons b bytes =>
        rw [List.forall_mem_cons] at h
        rw [List.cons_append] at hstep ⊢
        rw [behindName?_cons hstep]
        exact ih _ (Nat.lt_succ_self _) h.2 rfl

/-! ## Dispositions of fields and files -/

/-- What stands in front of the name of a field. -/
def front : String := "form-data; name=\""

/-- What stands in front of the name of a file. -/
def middle : String := "; filename=\""

variable {name filename : String}

theorem parameter?_name (h : Header.IsTokenText name) (rest : Bytes) :
    parameter? "name" (Utf8.encode front ++ (Utf8.encode name ++ 0x22 :: rest)) = some name :=
  parameter?_of_behindName? h rfl

/-- Inside of a name no value begins. -/
theorem behind?_eq_none {after : Bytes} (h : ∀ b ∈ after, isPlain b = true) (rest : Bytes) :
    behind? 0x3D (after ++ 0x22 :: rest) = none := by
  cases after with
  | nil => rfl
  | cons b after =>
      obtain ⟨hspace, _, _, hne, _⟩ := isPlain_spec (h b List.mem_cons_self)
      simp [behind?, hspace, hne]

/-- What is found of a file name behind the name of a field: nothing, if the name hides it. -/
theorem parameter?_filename_cases (h : Header.IsTokenText name) (rest : Bytes) :
    parameter? "filename" (Utf8.encode front ++ (Utf8.encode name ++ 0x22 :: rest)) = none ∨
      behindName? (Utf8.encode "filename") 0 0x3B
        (Utf8.encode front ++ (Utf8.encode name ++ 0x22 :: rest)) =
          behindName? (Utf8.encode "filename") 0 0x22 rest := by
  have hfront : behindName? (Utf8.encode "filename") 0 0x3B
      (Utf8.encode front ++ (Utf8.encode name ++ 0x22 :: rest)) =
        behindName? (Utf8.encode "filename") 0 0x22 (Utf8.encode name ++ 0x22 :: rest) := rfl
  rw [parameter?, hfront]
  rcases @behindName?_cases (Utf8.encode "filename") _ 0x22 (by decide) (by decide) rest
    (isPlain_encode h) with hrest | ⟨after, hafter, hfound⟩
  · exact .inr hrest
  · left
    simp only [hfound, Option.bind_eq_bind, Option.bind_some, behind?_eq_none hafter,
      Option.bind_none]

/-- Behind a name alone there is no file name, whatever the name. -/
theorem parameter?_filename_eq_none (h : Header.IsTokenText name) :
    parameter? "filename" (Utf8.encode front ++ (Utf8.encode name ++ [0x22])) = none := by
  rcases parameter?_filename_cases h [] with hnone | hrest
  · exact hnone
  · rw [parameter?, hrest]
    rfl

/-- An empty file name is as good as none. -/
theorem parameter?_filename_empty (h : Header.IsTokenText name) :
    (parameter? "filename" (Utf8.encode front ++ (Utf8.encode name ++ 0x22 ::
      (Utf8.encode middle ++ [0x22])))).filter (· != "") = none := by
  rcases parameter?_filename_cases h (Utf8.encode middle ++ [0x22]) with hnone | hrest
  · rw [hnone]
    rfl
  · have hempty := @parameter?_of_behindName? [] "filename" "" _ (by decide) hrest
    rw [hempty]
    rfl

/-- The name of a file is read, unless the name of the field holds the word twice in a row. -/
theorem parameter?_filename (h : Header.IsTokenText name) (hf : Header.IsTokenText filename)
    (hd : ¬ "filenamefilename".toList <:+: name.toList) :
    parameter? "filename" (Utf8.encode front ++ (Utf8.encode name ++ 0x22 ::
      (Utf8.encode middle ++ (Utf8.encode filename ++ [0x22])))) = some filename := by
  have htwice : ¬ Utf8.encode "filename" ++ Utf8.encode "filename" <:+: Utf8.encode name := by
    have hprintable : Header.IsPrintableText ("filename" ++ "filename") := by decide +kernel
    rw [← Utf8.encode_append]
    exact fun hi => hd (hprintable.infix_of_encode hi)
  apply parameter?_of_behindName? hf
  -- the word is not found in front of the name, nor in it, but behind it
  calc behindName? (Utf8.encode "filename") 0 0x3B (Utf8.encode front ++ _)
      = behindName? (Utf8.encode "filename") 0 0x22 (Utf8.encode name ++ 0x22 ::
          (Utf8.encode middle ++ (Utf8.encode filename ++ [0x22]))) := rfl
    _ = behindName? (Utf8.encode "filename") 0 0x22
          (Utf8.encode middle ++ (Utf8.encode filename ++ [0x22])) :=
        behindName?_plain (by decide) (by decide) _ (isPlain_encode h) htwice fun _ => by decide
    _ = some (0x3D :: 0x22 :: (Utf8.encode filename ++ [0x22])) := rfl

end Disposition

end Formwork
