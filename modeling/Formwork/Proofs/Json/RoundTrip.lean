import Formwork.Json.Parser
import Formwork.Json.Printer
import Mathlib.Data.List.TakeDrop

/-! # Reading what was written

Reading the text of a document gives the document back if its numbers are whole and
have 64 bits and its containers nest no deeper than the reader allows
(`Json.parse?_render`). The reader takes a document off the front of a longer text, so
what is proved of each part holds in front of any rest that does not go on with the
part; only numbers are in danger of that.
-/

namespace Formwork

namespace Json

/-- The document has no fractions, its whole numbers have 64 bits, and at most `depth`
containers stand inside each other. -/
inductive Fits : Nat → Json → Prop
  | null {depth : Nat} : Fits depth .null
  | bool {depth : Nat} (value : Bool) : Fits depth (.bool value)
  | int {depth : Nat} {n : Int} (low : Word64.minSigned ≤ n) (high : n ≤ Word64.maxUnsigned) :
      Fits depth (.int n)
  | string {depth : Nat} (value : String) : Fits depth (.string value)
  | array {depth : Nat} {items : List Json} (all : ∀ item ∈ items, Fits depth item) :
      Fits (depth + 1) (.array items)
  | object {depth : Nat} {members : List (String × Json)}
      (all : ∀ member ∈ members, Fits depth member.2) : Fits (depth + 1) (.object members)

theorem Fits.mono {depth more : Nat} {j : Json} (h : Fits depth j) (hle : depth ≤ more) :
    Fits more j := by
  induction h generalizing more with
  | null => exact .null
  | bool value => exact .bool value
  | int low high => exact .int low high
  | string value => exact .string value
  | array all ih =>
      obtain ⟨more, rfl⟩ : ∃ m, more = m + 1 := ⟨more - 1, by omega⟩
      exact .array fun item hi => ih item hi (by omega)
  | object all ih =>
      obtain ⟨more, rfl⟩ : ∃ m, more = m + 1 := ⟨more - 1, by omega⟩
      exact .object fun member hm => ih member hm (by omega)

end Json

namespace Decimal

theorem digits_head {n : Nat} (h : (digits n).head? = some '0') : n = 0 := by
  fun_induction digits n with
  | case1 n hn =>
      revert h
      have hall : ∀ m : Nat, m < 10 → [digitChar m].head? = some '0' → m = 0 := by decide
      exact hall n hn
  | case2 n hn ih =>
      have hl : (digits (n / 10)).head? = some '0' := by
        rw [List.head?_append] at h
        cases hd : (digits (n / 10)).head? with
        | none => exact absurd (List.head?_eq_none_iff.1 hd) (digits_ne_nil _)
        | some c =>
            rw [hd] at h
            exact h
      have := ih hl
      omega

/-- A number without a leading zero. -/
theorem digits_plain (n : Nat) :
    ¬ ((digits n).head? = some '0' ∧ (digits n).length > 1) := by
  rintro ⟨hh, hl⟩
  cases digits_head hh
  rw [digits, if_pos (by decide)] at hl
  simp at hl

end Decimal

namespace Json.Parser

/-! ## Numbers -/

/-- The rest of a text does not go on with a number. -/
def EndsNumber (rest : List Char) : Prop :=
  ∀ c ∈ rest.head?, CharClass.isAsciiDigit c = false ∧ c ≠ '.' ∧ c ≠ 'e' ∧ c ≠ 'E'

theorem endsNumber_nil : EndsNumber [] := by
  intro c hc
  cases hc

theorem endsNumber_cons {c : Char} (rest : List Char)
    (h : CharClass.isAsciiDigit c = false ∧ c ≠ '.' ∧ c ≠ 'e' ∧ c ≠ 'E') :
    EndsNumber (c :: rest) := by
  intro d hd
  cases Option.some.inj hd
  exact h

theorem span_append {p : Char → Bool} {whole rest : List Char} (hw : ∀ c ∈ whole, p c = true)
    (hr : ∀ c ∈ rest.head?, p c = false) : (whole ++ rest).span p = (whole, rest) := by
  have ht : rest.takeWhile p = [] ∧ rest.dropWhile p = rest := by
    cases rest with
    | nil => exact ⟨rfl, rfl⟩
    | cons c rest =>
        have hc : p c = false := hr c rfl
        simp [hc]
  rw [List.span_eq_takeWhile_dropWhile, List.takeWhile_append_of_pos hw,
    List.dropWhile_append_of_pos hw, ht.1, ht.2, List.append_nil]

theorem fractionPart?_of_endsNumber {rest : List Char} (h : EndsNumber rest) :
    fractionPart? rest = some (none, rest) := by
  unfold fractionPart?
  split
  · exact absurd rfl (h '.' rfl).2.1
  · rfl

theorem exponentPart?_of_endsNumber {rest : List Char} (h : EndsNumber rest) :
    exponentPart? rest = some (none, rest) := by
  unfold exponentPart?
  split
  · rename_i c cs
    obtain ⟨_, _, he, hE⟩ := h c rfl
    simp only [he, hE, or_self, if_false]
  · rfl

theorem le_foldl_digits (cs : List Char) (n : Nat) :
    n ≤ cs.foldl (fun n c => n * 10 + Decimal.digitValue c) n := by
  induction cs generalizing n with
  | nil => exact Nat.le_refl n
  | cons c cs ih =>
      have := ih (n * 10 + Decimal.digitValue c)
      rw [List.foldl_cons]
      omega

/-- Digits of a number of 64 bits are all taken. -/
theorem addDigits_of_le {cs : List Char} {significand added : Nat}
    (h : (cs.foldl (fun n c => n * 10 + Decimal.digitValue c) significand : Nat) ≤
      Word64.maxUnsigned) :
    addDigits significand added cs =
      (cs.foldl (fun n c => n * 10 + Decimal.digitValue c) significand, added + cs.length, []) := by
  induction cs generalizing significand added with
  | nil => rfl
  | cons c cs ih =>
      rw [List.foldl_cons] at h ⊢
      have hle := le_foldl_digits cs (significand * 10 + Decimal.digitValue c)
      have hfit : ((significand * 10 + Decimal.digitValue c : Nat) : Int) ≤ Word64.maxUnsigned := by
        omega
      rw [addDigits]
      simp only [hfit, if_true]
      rw [ih h, List.length_cons, Nat.add_assoc, Nat.add_comm 1]

theorem unsignedNumber?_digits {negative : Bool} {n : Nat} {value : Int} {rest : List Char}
    (hn : (n : Int) ≤ Word64.maxUnsigned) (hv : wholeNumber? negative n = some value)
    (hr : EndsNumber rest) :
    unsignedNumber? negative (Decimal.digits n ++ rest) = some (.int value, rest) := by
  have hspan : (Decimal.digits n ++ rest).span CharClass.isAsciiDigit = (Decimal.digits n, rest) :=
    span_append (fun c hc => Decimal.isAsciiDigit_of_mem_digits hc) fun c hc => (hr c hc).1
  have hempty : (Decimal.digits n).isEmpty = false := by
    rw [List.isEmpty_eq_false_iff]
    exact Decimal.digits_ne_nil n
  have hfold : (Decimal.digits n).foldl (fun n c => n * 10 + Decimal.digitValue c) 0 = n :=
    Decimal.value_digits n
  have hadd := @addDigits_of_le (Decimal.digits n) 0 0 (by rw [hfold]; exact hn)
  rw [hfold] at hadd
  simp only [unsignedNumber?, hspan, hempty, Bool.false_eq_true, false_or, Decimal.digits_plain,
    if_false, fractionPart?_of_endsNumber hr, exponentPart?_of_endsNumber hr, hadd, hv,
    Option.bind_eq_bind, Option.bind_some]
  rfl

theorem number?_ofInt {n : Int} {rest : List Char} (hl : Word64.minSigned ≤ n)
    (hh : n ≤ Word64.maxUnsigned) (hr : EndsNumber rest) :
    number? (Decimal.ofInt n ++ rest) = some (.int n, rest) := by
  cases n with
  | ofNat n =>
      have hhead : ∀ cs, Decimal.digits n ++ rest ≠ '-' :: cs := by
        intro cs e
        cases hd : Decimal.digits n with
        | nil => exact Decimal.digits_ne_nil n hd
        | cons d ds =>
            rw [hd] at e
            cases e
            have := Decimal.isAsciiDigit_of_mem_digits (n := n) (c := '-') (by simp [hd])
            revert this
            decide
      rw [Decimal.ofInt, number?]
      · exact unsignedNumber?_digits hh rfl hr
      · exact hhead
  | negSucc n =>
      have hm : Word64.IsSigned (-((n + 1 : Nat) : Int)) := by
        unfold Word64.IsSigned Word64.maxSigned
        omega
      have hv : wholeNumber? true (n + 1) = some (-((n + 1 : Nat) : Int)) := by
        rw [wholeNumber?, if_pos rfl, if_pos ⟨by omega, hm⟩]
      rw [Decimal.ofInt, List.cons_append, number?]
      have hle : ((n + 1 : Nat) : Int) ≤ Word64.maxUnsigned := by
        unfold Word64.minSigned at hl
        unfold Word64.maxUnsigned
        omega
      exact unsignedNumber?_digits hle hv hr

/-! ## Strings -/

/-- A control character is written with four digits. -/
theorem hexUnit?_digits {n : Nat} (h : n < 0x20) :
    hexUnit? '0' '0' (Hex.digit (n / 16)) (Hex.digit (n % 16)) = some n := by
  have hz : Hex.value? '0' = some 0 := by decide
  have hn : (0 * 16 + 0) * 256 + (n / 16 * 16 + n % 16) = n := by omega
  have hhigh := Hex.value?_digit (n / 16) (by omega)
  have hlow := Hex.value?_digit (n % 16) (by omega)
  simp only [hexUnit?, hz, hhigh, hlow, Option.bind_eq_bind, Option.bind_some, Option.pure_def, hn]

theorem stringTail?_unicode {a b c d : Char} {unit : Nat} (hu : hexUnit? a b c d = some unit)
    (hs : unit < 0xD800) (rest : List Char) :
    stringTail? ('\\' :: 'u' :: a :: b :: c :: d :: rest) =
      (stringTail? rest).map fun (cs, after) => (Char.ofNat unit :: cs, after) := by
  have h1 : ¬ (0xDC00 ≤ unit ∧ unit ≤ 0xDFFF) := by omega
  have h2 : ¬ (0xD800 ≤ unit ∧ unit ≤ 0xDBFF) := by omega
  have h3 : ¬ (0xD800 ≤ unit ∧ unit ≤ 0xDFFF) := by omega
  -- a second escape behind the first counts on its own, since the first is no half of a pair
  by_cases hp : ∃ e f g h more, rest = '\\' :: 'u' :: e :: f :: g :: h :: more
  · obtain ⟨e, f, g, h, more, rfl⟩ := hp
    rw [stringTail?]
    simp only [hu, h1, h2, if_false, Option.bind_eq_bind, Option.bind_some]
    cases stringTail? ('\\' :: 'u' :: e :: f :: g :: h :: more) <;> rfl
  · rw [stringTail?]
    · simp only [hu, h3, if_false, Option.bind_eq_bind, Option.bind_some]
      cases stringTail? rest <;> rfl
    · intro e f g h more he
      exact hp ⟨e, f, g, h, more, he⟩

theorem stringTail?_escape {e c : Char} (hu : e ≠ 'u') (he : escaped? e = some c)
    (rest : List Char) :
    stringTail? ('\\' :: e :: rest) =
      (stringTail? rest).map fun (cs, after) => (c :: cs, after) := by
  rw [stringTail?]
  · simp only [he, Option.bind_eq_bind, Option.bind_some]
    cases stringTail? rest <;> rfl
  · intros
    exact hu ‹_›
  · intros
    exact hu ‹_›

/-- A character inside quotation marks is read as itself. -/
theorem stringTail?_quotedChar (c : Char) (rest : List Char) :
    stringTail? (quotedChar c ++ rest) =
      (stringTail? rest).map fun (cs, after) => (c :: cs, after) := by
  have escape (e : Char) (hu : e ≠ 'u') (he : escaped? e = some c) :=
    stringTail?_escape hu he rest
  have code (n : Nat) (hn : c.toNat = n) : c = Char.ofNat n := by
    rw [← hn, Char.ofNat_toNat]
  unfold quotedChar
  split
  · rename_i h
    subst h
    exact escape '"' (by decide) (by decide)
  · rename_i hq
    split
    · rename_i h
      subst h
      exact escape '\\' (by decide) (by decide)
    · rename_i hb
      split
      · rename_i h
        cases code _ h
        exact escape 'b' (by decide) (by decide)
      · split
        · rename_i h
          cases code _ h
          exact escape 'f' (by decide) (by decide)
        · split
          · rename_i h
            subst h
            exact escape 'n' (by decide) (by decide)
          · split
            · rename_i h
              subst h
              exact escape 'r' (by decide) (by decide)
            · split
              · rename_i h
                subst h
                exact escape 't' (by decide) (by decide)
              · split
                · rename_i h
                  have hu := stringTail?_unicode (hexUnit?_digits h) (by omega) rest
                  rw [Char.ofNat_toNat] at hu
                  exact hu
                · rename_i h
                  rw [List.singleton_append, stringTail?]
                  · simp only [hb, h, or_self, if_false]
                  · exact hq
                  all_goals
                    intros
                    exact hb ‹_›

theorem stringTail?_quoted (cs rest : List Char) :
    stringTail? (cs.flatMap quotedChar ++ '"' :: rest) = some (cs, rest) := by
  induction cs with
  | nil => rw [List.flatMap_nil, List.nil_append, stringTail?]
  | cons c cs ih =>
      rw [List.flatMap_cons, List.append_assoc, stringTail?_quotedChar, ih, Option.map_some]

theorem string?_quoted (s : String) (rest : List Char) :
    string? (quoted s ++ rest) = some (s, rest) := by
  have hq : quoted s ++ rest = '"' :: (s.toList.flatMap quotedChar ++ '"' :: rest) := by
    simp [quoted]
  rw [hq, string?, stringTail?_quoted]
  simp only [Option.map_some, String.ofList_toList]

/-! ## Containers -/

theorem skip_cons {c : Char} (cs : List Char) (h : isBlank c = false) :
    skip (c :: cs) = c :: cs := by
  simp [skip, h]

/-- Entries with commas between them, in front of the mark that closes them. -/
theorem entries?_of_reads {α : Type} {readOne : List Char → Option (α × List Char)}
    {write : α → List Char} {close : Char} (hb : isBlank close = false) (hc : close ≠ ',')
    (he : ∀ tail, EndsNumber (close :: tail)) (first : α) (others : List α) (rest : List Char)
    (hr : ∀ x ∈ first :: others, ∀ tail, EndsNumber tail →
      readOne (write x ++ tail) = some (x, tail)) :
    entries? readOne close
        (write first ++ (others.flatMap (fun x => ',' :: write x) ++ close :: rest)) =
      some (first :: others, rest) := by
  induction others generalizing first with
  | nil =>
      have hf := hr first List.mem_cons_self (close :: rest) (he rest)
      rw [List.flatMap_nil, List.nil_append, entries?, hf]
      simp only [skip_cons rest hb, if_true]
  | cons second others ih =>
      have hs := ih second fun x hx => hr x (List.mem_cons_of_mem _ hx)
      have hcomma : EndsNumber (',' :: (write second ++
          (others.flatMap (fun x => ',' :: write x) ++ close :: rest))) :=
        endsNumber_cons _ (by decide)
      have hf := hr first List.mem_cons_self _ hcomma
      have hlt : ∀ after : List Char, after.length < (write first ++ ',' :: after).length := by
        intro after
        rw [List.length_append, List.length_cons]
        omega
      rw [List.flatMap_cons, List.cons_append, List.cons_append, List.append_assoc, entries?, hf]
      simp only [skip_cons _ (show isBlank ',' = false from by decide), hc.symm, if_false, if_true,
        hlt, hs, Option.map_some]

/-- A member of an object as it is written. -/
def memberChars (member : String × Json) : List Char := quoted member.1 ++ ':' :: chars member.2

theorem itemsTail_eq (items : List Json) :
    itemsTail items = items.flatMap (fun item => ',' :: chars item) ++ [']'] := by
  induction items with
  | nil => rfl
  | cons item items ih => simp [itemsTail, ih]

theorem membersTail_eq (members : List (String × Json)) :
    membersTail members = members.flatMap (fun member => ',' :: memberChars member) ++
      ['\x7d'] := by
  induction members with
  | nil => rfl
  | cons member members ih => simp [membersTail, memberChars, ih]

theorem member?_memberChars {read : List Char → Option (Json × List Char)}
    {member : String × Json} {tail : List Char}
    (h : read (chars member.2 ++ tail) = some (member.2, tail)) :
    member? read (memberChars member ++ tail) = some (member, tail) := by
  have hm : memberChars member ++ tail =
      quoted member.1 ++ ':' :: (chars member.2 ++ tail) := by
    simp [memberChars]
  have hs : skip (quoted member.1 ++ ':' :: (chars member.2 ++ tail)) =
      quoted member.1 ++ ':' :: (chars member.2 ++ tail) := by
    rw [quoted, List.cons_append, List.cons_append]
    exact skip_cons _ (by decide)
  have hcolon : isBlank ':' = false := by decide
  simp only [member?, hm, hs, string?_quoted, Option.bind_eq_bind, Option.bind_some,
    skip_cons _ hcolon, h]
  rfl

/-! ## Documents -/

theorem ofInt_head (n : Int) :
    ∃ c cs, Decimal.ofInt n = c :: cs ∧ (c = '-' ∨ CharClass.isAsciiDigit c = true) := by
  cases n with
  | ofNat n =>
      cases hd : Decimal.digits n with
      | nil => exact absurd hd (Decimal.digits_ne_nil n)
      | cons c cs =>
          refine ⟨c, cs, hd, Or.inr ?_⟩
          exact Decimal.isAsciiDigit_of_mem_digits (n := n) (by simp [hd])
  | negSucc n => exact ⟨'-', Decimal.digits (n + 1), rfl, Or.inl rfl⟩

theorem ne_of_isNumberHead {c d : Char} (h : c = '-' ∨ CharClass.isAsciiDigit c = true)
    (hd : ¬ (d = '-' ∨ CharClass.isAsciiDigit d = true)) : c ≠ d := by
  rintro rfl
  exact hd h

theorem isBlank_of_isNumberHead {c : Char} (h : c = '-' ∨ CharClass.isAsciiDigit c = true) :
    isBlank c = false := by
  have h1 := ne_of_isNumberHead h (d := ' ') (by decide)
  have h2 := ne_of_isNumberHead h (d := '\n') (by decide)
  have h3 := ne_of_isNumberHead h (d := '\t') (by decide)
  have h4 := ne_of_isNumberHead h (d := '\r') (by decide)
  simp [isBlank, h1, h2, h3, h4]

/-- What begins like a number is read as one. -/
theorem value?_number {c : Char} (h : c = '-' ∨ CharClass.isAsciiDigit c = true) (depth : Nat)
    (cs : List Char) : value? depth (c :: cs) = number? (c :: cs) := by
  rw [value?.eq_def]
  simp only [skip_cons cs (isBlank_of_isNumberHead h)]
  split
  all_goals first
    | rfl
    | rename_i he
      cases he
      exact absurd h (by decide)

/-- The text of a document begins with neither a blank nor a closing bracket. -/
theorem chars_head {depth : Nat} {j : Json} (h : Fits depth j) :
    ∃ c cs, chars j = c :: cs ∧ isBlank c = false ∧ c ≠ ']' := by
  cases h with
  | null => exact ⟨_, _, rfl, by decide, by decide⟩
  | bool value => cases value <;> exact ⟨_, _, rfl, by decide, by decide⟩
  | @int _ n low high =>
      obtain ⟨c, cs, hc, hn⟩ := ofInt_head n
      exact ⟨c, cs, hc, isBlank_of_isNumberHead hn, ne_of_isNumberHead hn (by decide)⟩
  | string value => exact ⟨_, _, rfl, by decide, by decide⟩
  | @array _ items all => cases items <;> exact ⟨_, _, rfl, by decide, by decide⟩
  | @object _ members all => cases members <;> exact ⟨_, _, rfl, by decide, by decide⟩

/-- Items that are read in front of any rest make an array that is. -/
theorem value?_array {depth : Nat} {item : Json} {items : List Json}
    (hr : ∀ x ∈ item :: items, ∀ tail, EndsNumber tail →
      value? depth (chars x ++ tail) = some (x, tail))
    (hf : Fits depth item) (rest : List Char) :
    value? (depth + 1) (chars (.array (item :: items)) ++ rest) =
      some (.array (item :: items), rest) := by
  have hread := @entries?_of_reads _ (value? depth) chars ']' (by decide) (by decide)
    (fun tail => endsNumber_cons tail (by decide)) item items rest hr
  obtain ⟨c, cs, hc, hb, hne⟩ := chars_head hf
  have htext : chars (.array (item :: items)) ++ rest =
      '[' :: (chars item ++ (items.flatMap (fun x => ',' :: chars x) ++ ']' :: rest)) := by
    simp [chars, itemsTail_eq]
  have hopen : isBlank '[' = false := by decide
  rw [htext, value?.eq_def]
  rw [hc, List.cons_append] at hread ⊢
  simp only [skip_cons _ hopen, skip_cons _ hb]
  split
  · rename_i he
    cases he
    exact absurd rfl hne
  · rw [hread, Option.map_some]

theorem entries?_eq_some {α : Type} {readOne : List Char → Option (α × List Char)} {close : Char}
    {cs rest : List Char} {found : List α} (h : entries? readOne close cs = some (found, rest)) :
    ∃ first others after, readOne cs = some (first, after) ∧ found = first :: others := by
  rw [entries?] at h
  split at h
  · cases h
  · rename_i first after hr
    refine ⟨first, found.tail, after, hr, ?_⟩
    split at h
    · cases h
    · split at h
      · cases h
        rfl
      · split at h
        · split at h
          · obtain ⟨_, _, he⟩ := Option.map_eq_some_iff.1 h
            cases he
            rfl
          · cases h
        · cases h

/-- An object is read by its members. -/
theorem value?_object_eq (depth : Nat) (member : String × Json) (members : List (String × Json))
    (rest : List Char) :
    value? (depth + 1) (chars (.object (member :: members)) ++ rest) =
      (entries? (member? (value? depth)) '\x7d' (memberChars member ++
        (members.flatMap (fun x => ',' :: memberChars x) ++ '\x7d' :: rest))).map
        fun (found, after) => (.object found, after) := by
  have htext : chars (.object (member :: members)) ++ rest =
      '\x7b' :: (memberChars member ++
        (members.flatMap (fun x => ',' :: memberChars x) ++ '\x7d' :: rest)) := by
    obtain ⟨name, value⟩ := member
    simp [chars, membersTail_eq, memberChars]
  have hopen : isBlank '\x7b' = false := by decide
  have hquote : isBlank '"' = false := by decide
  obtain ⟨cs, hq⟩ : ∃ cs, memberChars member = '"' :: cs := ⟨_, rfl⟩
  rw [htext, value?.eq_def]
  rw [hq, List.cons_append]
  simp only [skip_cons _ hopen, skip_cons _ hquote]
  split
  · rename_i he
    cases he
  · rfl

/-- Members whose values are read in front of any rest make an object that is. -/
theorem value?_object {depth : Nat} {member : String × Json} {members : List (String × Json)}
    (hr : ∀ x ∈ member :: members, ∀ tail, EndsNumber tail →
      value? depth (chars x.2 ++ tail) = some (x.2, tail)) (rest : List Char) :
    value? (depth + 1) (chars (.object (member :: members)) ++ rest) =
      some (.object (member :: members), rest) := by
  have hread := @entries?_of_reads _ (member? (value? depth)) memberChars '\x7d'
    (by decide) (by decide) (fun tail => endsNumber_cons tail (by decide)) member members
    rest fun x hx tail ht => member?_memberChars (hr x hx tail ht)
  rw [value?_object_eq, hread, Option.map_some]

/-- A first member whose value is read in front of any rest is the first of what is read,
whatever follows it. -/
theorem value?_object_first {depth : Nat} {member : String × Json}
    {members : List (String × Json)} {rest after : List Char} {found : Json}
    (hr : ∀ tail, EndsNumber tail → value? depth (chars member.2 ++ tail) = some (member.2, tail))
    (h : value? (depth + 1) (chars (.object (member :: members)) ++ rest) = some (found, after)) :
    ∃ others, found = .object (member :: others) := by
  have hends : EndsNumber (members.flatMap (fun x => ',' :: memberChars x) ++ '\x7d' :: rest) := by
    cases members with
    | nil => exact endsNumber_cons _ (by decide)
    | cons second members => exact endsNumber_cons _ (by decide)
  rw [value?_object_eq] at h
  obtain ⟨⟨all, _⟩, he, hfound⟩ := Option.map_eq_some_iff.1 h
  obtain ⟨first, others, _, hf, rfl⟩ := entries?_eq_some he
  rw [member?_memberChars (hr _ hends)] at hf
  cases hf
  cases hfound
  exact ⟨others, rfl⟩

/-- A document is read off the front of a text that does not go on with it. -/
theorem value?_chars {depth : Nat} {j : Json} (h : Fits depth j) (rest : List Char)
    (hr : EndsNumber rest) : value? depth (chars j ++ rest) = some (j, rest) := by
  induction h generalizing rest with
  | null =>
      rw [chars, value?.eq_def]
      rfl
  | bool value =>
      cases value
      · rw [chars, value?.eq_def]
        rfl
      · rw [chars, value?.eq_def]
        rfl
  | @int depth n low high =>
      obtain ⟨c, cs, hc, hn⟩ := ofInt_head n
      have hnum := number?_ofInt low high hr
      rw [chars]
      rw [hc] at hnum ⊢
      rw [List.cons_append, value?_number hn]
      exact hnum
  | string value =>
      have hq : quoted value ++ rest = '"' :: (value.toList.flatMap quotedChar ++ '"' :: rest) := by
        simp [quoted]
      have hquote : isBlank '"' = false := by decide
      rw [chars, hq, value?.eq_def]
      simp only [skip_cons _ hquote, stringTail?_quoted, Option.map_some, String.ofList_toList]
  | @array depth items all ih =>
      cases items with
      | nil =>
          rw [chars, value?.eq_def]
          rfl
      | cons item items =>
          exact value?_array (fun x hx tail ht => ih x hx tail ht) (all item List.mem_cons_self) rest
  | @object depth members all ih =>
      cases members with
      | nil =>
          rw [chars, value?.eq_def]
          rfl
      | cons member members => exact value?_object (fun x hx tail ht => ih x hx tail ht) rest

end Json.Parser

namespace Json

/-- Reading undoes writing. -/
theorem parse?_render {j : Json} (h : Fits nestingLimit j) : parse? j.render = some j := by
  have hv := Parser.value?_chars h [] Parser.endsNumber_nil
  rw [List.append_nil] at hv
  rw [parse?, parseWithin?, render, String.toList_ofList, hv]
  rfl

/-- A text that begins as an object does with a number as its first member is read, if at
all, as an object that begins so. -/
theorem parse?_object_int {name : String} {n : Int} {members : List (String × Json)} {found : Json}
    (hl : Word64.minSigned ≤ n) (hh : n ≤ Word64.maxUnsigned)
    (h : parse? (Json.object ((name, .int n) :: members)).render = some found) :
    ∃ others, found = .object ((name, .int n) :: others) := by
  have hn : ∀ tail, Parser.EndsNumber tail →
      Parser.value? 126 (chars (.int n) ++ tail) = some (.int n, tail) :=
    Parser.value?_chars (.int hl hh)
  rw [parse?, parseWithin?, render, String.toList_ofList] at h
  split at h
  · rename_i j rest hv
    have hf : j = found := by
      split at h <;> cases h
      rfl
    rw [← List.append_nil (chars _)] at hv
    obtain ⟨others, ho⟩ := @Parser.value?_object_first 126 (name, .int n) _ _ _ _ hn hv
    exact ⟨others, hf.symm.trans ho⟩
  · cases h

end Json

end Formwork
