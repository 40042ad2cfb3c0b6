import Formwork.Dict
import Formwork.Proofs.Text.Cut
import Formwork.Proofs.Text.Utf8
import Formwork.Session.Cookie

/-! # Cookies on the way

What a cookie is set with is found again. The text that sets a cookie is printable if
its parts are, and begins with the name and the value (`CookieOptions.render?_eq_some`);
a header with names and values between semicolons is cut into just these
(`Cookie.pairs_headerText`), so that a look-up in the header is one in the list.
-/

namespace Formwork

open Header (IsPrintable IsPrintableText)

namespace Cookie

/-- A character that neither ends a name or a value nor is stripped from it. -/
def IsPlainChar (c : Char) : Prop := IsPrintable c ∧ c ≠ ' ' ∧ c ≠ '"' ∧ c ≠ ';' ∧ c ≠ '='

/-- A name or a value that travels as it is. -/
def IsPlain (s : String) : Prop := ∀ c ∈ s.toList, IsPlainChar c

theorem IsPlain.isPrintableText {s : String} (h : IsPlain s) : IsPrintableText s :=
  fun c hc => (h c hc).1

theorem isSpace_of_isPrintable {c : Char} (h : IsPrintable c) (hb : c ≠ ' ') :
    CharClass.isSpace c = false := by
  have hn : c.toNat ≠ 0x20 := fun e => hb (Char.toNat_inj.1 e)
  obtain ⟨hl, hh⟩ := h
  simp only [CharClass.isSpace, Bool.or_eq_false_iff, Bool.and_eq_false_iff, beq_eq_false_iff_ne,
    decide_eq_false_iff_not]
  omega

/-! ## Headers -/

/-- A name and a value in a header. -/
def pairText (entry : String × String) : String := entry.1 ++ "=" ++ entry.2

/-- Names and values as a header. -/
def headerText (entries : List (String × String)) : String :=
  Text.join "; " (entries.map pairText)

variable {entries : List (String × String)}

theorem toList_pairText (entry : String × String) :
    (pairText entry).toList = entry.1.toList ++ '=' :: entry.2.toList := by
  simp [pairText]

theorem ofPiece?_pairText {entry : String × String} (hn : IsPlain entry.1) (hv : IsPlain entry.2) :
    ofPiece? (pairText entry) = some entry := by
  have hspace : ∀ c ∈ (pairText entry).toList, CharClass.isSpace c = false := by
    intro c hc
    rw [toList_pairText] at hc
    rcases List.mem_append.1 hc with hc | hc
    · exact isSpace_of_isPrintable (hn c hc).1 (hn c hc).2.1
    · rcases List.mem_cons.1 hc with rfl | hc
      · decide
      · exact isSpace_of_isPrintable (hv c hc).1 (hv c hc).2.1
  have ht : Text.trim (pairText entry) = pairText entry := by
    rw [Text.trim, Text.trimBy, Cut.trim_of_forall hspace, String.ofList_toList]
  have hs : Text.splitOnce? '=' (pairText entry) = some entry := by
    obtain ⟨name, value⟩ := entry
    refine Text.splitOnce?_eq_some_iff.2 ⟨toList_pairText _, fun hm => ?_⟩
    exact (hn '=' hm).2.2.2.2 rfl
  have hq : Text.trimBy (· == '"') entry.2 = entry.2 := by
    have hquote : ∀ c ∈ entry.2.toList, (c == '"') = false := by
      intro c hc
      rw [beq_eq_false_iff_ne]
      exact (hv c hc).2.2.1
    rw [Text.trimBy, Cut.trim_of_forall hquote, String.ofList_toList]
  rw [ofPiece?, ht, hs, Option.map_some]
  simp only [hq]

/-- A blank in front of a piece does not count. -/
theorem trim_blank (cs : List Char) :
    Text.trim (String.ofList (' ' :: cs)) = Text.trim (String.ofList cs) := by
  rw [Text.trim, Text.trim, Text.trimBy, Text.trimBy, String.toList_ofList,
    String.toList_ofList, Cut.trim_cons (by decide)]

theorem ofPiece?_blank (cs : List Char) :
    ofPiece? (String.ofList (' ' :: cs)) = ofPiece? (String.ofList cs) := by
  rw [ofPiece?, ofPiece?, trim_blank]

/-- The pairs of a text, given as characters. -/
def pairsOf (cs : List Char) : List (String × String) :=
  ((Cut.cutAt (· == ';') cs).map String.ofList).filterMap ofPiece?

theorem pairs_singleton (header : String) : pairs [header] = pairsOf header.toList := by
  rw [pairs, List.flatMap_singleton]
  rfl

theorem pairsOf_blank (cs : List Char) : pairsOf (' ' :: cs) = pairsOf cs := by
  cases hc : Cut.cutAt (· == ';') cs with
  | nil => exact absurd hc (Cut.cutAt_ne_nil _ cs)
  | cons part parts =>
      have hb := Cut.cutAt_cons_of_not (x := ' ') (p := (· == ';')) (by decide) hc
      simp only [pairsOf, hc, hb, List.map_cons, List.filterMap_cons, ofPiece?_blank]

theorem not_semicolon_of_mem_pairText {entry : String × String} (hn : IsPlain entry.1)
    (hv : IsPlain entry.2) : ∀ c ∈ (pairText entry).toList, (c == ';') = false := by
  intro c hc
  rw [beq_eq_false_iff_ne]
  rw [toList_pairText] at hc
  rcases List.mem_append.1 hc with hc | hc
  · exact (hn c hc).2.2.2.1
  · rcases List.mem_cons.1 hc with rfl | hc
    · decide
    · exact (hv c hc).2.2.2.1

/-- A header is cut into the names and values that it was made of. -/
theorem pairs_headerText (h : ∀ entry ∈ entries, IsPlain entry.1 ∧ IsPlain entry.2) :
    pairs [headerText entries] = entries := by
  rw [pairs_singleton]
  induction entries with
  | nil => rfl
  | cons entry entries ih =>
      obtain ⟨hn, hv⟩ := h entry List.mem_cons_self
      have hp := ofPiece?_pairText hn hv
      have hc := not_semicolon_of_mem_pairText hn hv
      have hr := ih fun other ho => h other (List.mem_cons_of_mem _ ho)
      cases entries with
      | nil =>
          have hone : (headerText [entry]).toList = (pairText entry).toList := by
            simp [headerText, Text.toList_join_cons]
          simp [pairsOf, hone, Cut.cutAt_of_forall hc, hp]
      | cons second entries =>
          have hmore : (headerText (entry :: second :: entries)).toList =
              (pairText entry).toList ++ ';' :: ' ' :: (headerText (second :: entries)).toList := by
            simp [headerText, Text.toList_join_cons]
          have hb := pairsOf_blank (headerText (second :: entries)).toList
          rw [hr] at hb
          rw [hmore, pairsOf, Cut.cutAt_append (by simp) hc, List.map_cons, List.filterMap_cons,
            String.ofList_toList, hp]
          exact congrArg (entry :: ·) hb

theorem isPrintableText_pairText {entry : String × String} (hn : IsPlain entry.1)
    (hv : IsPlain entry.2) : IsPrintableText (pairText entry) :=
  (hn.isPrintableText.append (by decide)).append hv.isPrintableText

theorem isPrintableText_join {parts : List String} (h : ∀ part ∈ parts, IsPrintableText part) :
    IsPrintableText (Text.join "; " parts) := by
  cases parts with
  | nil => intro c hc; cases hc
  | cons first others =>
      intro c hc
      rw [Text.toList_join_cons] at hc
      rcases List.mem_append.1 hc with hc | hc
      · exact h first List.mem_cons_self c hc
      · obtain ⟨part, hp, hc⟩ := List.mem_flatMap.1 hc
        rcases List.mem_append.1 hc with hc | hc
        · exact (show IsPrintableText "; " from by decide) c hc
        · exact h part (List.mem_cons_of_mem _ hp) c hc

theorem isPrintableText_headerText (h : ∀ entry ∈ entries, IsPlain entry.1 ∧ IsPlain entry.2) :
    IsPrintableText (headerText entries) := by
  refine isPrintableText_join fun part hp => ?_
  obtain ⟨entry, he, rfl⟩ := List.mem_map.1 hp
  exact isPrintableText_pairText (h entry he).1 (h entry he).2

theorem find?_eq_lookup (headers : List String) (name : String) :
    find? headers name = (pairs headers).lookup name := by
  rw [find?]
  induction pairs headers with
  | nil => rfl
  | cons entry entries ih =>
      by_cases hk : name = entry.1
      · simp [Pairs.lookup_cons, hk]
      · simp [Pairs.lookup_cons, hk, Ne.symm hk, ih]

/-- A look-up in a header is a look-up in what it was made of. -/
theorem find?_headerText (h : ∀ entry ∈ entries, IsPlain entry.1 ∧ IsPlain entry.2)
    (name : String) : find? [headerText entries] name = entries.lookup name := by
  rw [find?_eq_lookup, pairs_headerText h]

end Cookie

/-! ## Texts that set a cookie -/

namespace Header

theorem isPrintable_of_isAsciiDigit {c : Char} (h : CharClass.isAsciiDigit c = true) :
    IsPrintable c := by
  simp only [CharClass.isAsciiDigit, Bool.and_eq_true, decide_eq_true_eq, Char.le_def] at h
  obtain ⟨hl, hh⟩ := h
  have hl' : 0x30 ≤ c.toNat := hl
  have hh' : c.toNat ≤ 0x39 := hh
  unfold IsPrintable
  omega

end Header

namespace Decimal

open Header

theorem isPrintableText_intText (n : Int) : IsPrintableText (intText n) := by
  intro c hc
  rcases mem_intText hc with hc | rfl
  · exact isPrintable_of_isAsciiDigit hc
  · decide

end Decimal

namespace Calendar

/-- What the text of a moment holds besides digits. -/
def gmtMarks : List Char :=
  (weekdayNames ++ monthNames).flatMap String.toList ++ [' ', ',', ':', '+', '-', 'G', 'M', 'T']

theorem mem_getD {names : List String} {i : Nat} {c : Char}
    (h : c ∈ (names.getD i "").toList) : c ∈ names.flatMap String.toList := by
  rw [List.getD_eq_getElem?_getD] at h
  cases hi : names[i]? with
  | none =>
      rw [hi] at h
      cases h
  | some name =>
      rw [hi] at h
      exact List.mem_flatMap.2 ⟨name, List.mem_of_getElem? hi, h⟩

theorem mem_yearChars {year : Int} {c : Char} (h : c ∈ yearChars year) :
    CharClass.isAsciiDigit c = true ∨ c ∈ ['-', '+'] := by
  unfold yearChars at h
  split at h
  · exact .inl (Decimal.isAsciiDigit_of_mem_padded h)
  · rcases List.mem_cons.1 h with rfl | h
    · right
      split <;> decide
    · exact .inl (Decimal.isAsciiDigit_of_mem_padded h)

theorem mem_gmtText {d : DateTime} {c : Char} (h : c ∈ (gmtText d).toList) :
    CharClass.isAsciiDigit c = true ∨ c ∈ gmtMarks := by
  have htwo : ∀ {n : Nat}, c ∈ twoDigits n → CharClass.isAsciiDigit c = true :=
    fun h => Decimal.isAsciiDigit_of_mem_padded h
  have hmark : ∀ {text : String}, c ∈ text.toList → text.toList ⊆ gmtMarks → c ∈ gmtMarks :=
    fun hc hsub => hsub hc
  have hname : ∀ {names : List String} {i : Nat}, c ∈ (names.getD i "").toList →
      names.flatMap String.toList ⊆ gmtMarks → c ∈ gmtMarks :=
    fun hc hsub => hsub (mem_getD hc)
  simp only [gmtText, String.toList_append, String.toList_ofList, List.mem_append,
    List.mem_cons] at h
  rcases h with ((((((((h | h) | h) | h) | h) | h) | h) | h) | (h | rfl | h) | rfl | h) | h
  · exact .inr (hname h (by decide))
  · exact .inr (hmark h (by decide))
  · exact .inl (htwo h)
  · exact .inr (hmark h (by decide))
  · exact .inr (hname h (by decide))
  · exact .inr (hmark h (by decide))
  · rcases mem_yearChars h with h | h
    · exact .inl h
    · exact .inr ((show ['-', '+'] ⊆ gmtMarks by decide) h)
  · exact .inr (hmark h (by decide))
  · exact .inl (htwo h)
  · exact .inr (by decide)
  · exact .inl (htwo h)
  · exact .inr (by decide)
  · exact .inl (htwo h)
  · exact .inr (hmark h (by decide))

theorem isPrintableText_gmtText (d : DateTime) : IsPrintableText (gmtText d) := by
  have hmarks : IsPrintableText (String.ofList gmtMarks) := by decide
  intro c hc
  rcases mem_gmtText hc with hc | hc
  · exact Header.isPrintable_of_isAsciiDigit hc
  · exact hmarks c (by rwa [String.toList_ofList])

end Calendar

namespace CookieOptions

variable {o : CookieOptions} {name value text : String} {now : Int}

theorem isPrintableText_piece {key content : String} (hk : IsPrintableText key)
    (hc : IsPrintableText content) : ∀ part ∈ piece key content, IsPrintableText part := by
  intro part hp
  unfold piece at hp
  split at hp
  · cases hp
  · cases List.mem_singleton.1 hp
    exact (hk.append (by decide)).append hc

theorem isPrintableText_lifetime {parts : List String} (h : o.lifetime? now = some parts) :
    ∀ part ∈ parts, IsPrintableText part := by
  unfold lifetime? at h
  split at h
  · obtain ⟨expiry, _, rfl⟩ := Option.map_eq_some_iff.1 h
    intro part hp
    simp only [List.mem_cons, List.not_mem_nil, or_false] at hp
    rcases hp with rfl | rfl
    · exact IsPrintableText.append (by decide) (Calendar.isPrintableText_gmtText expiry)
    · exact IsPrintableText.append (by decide) (Decimal.isPrintableText_intText _)
  · split at h <;> cases h <;> decide

/-- The pieces behind the first. -/
def laterPieces (o : CookieOptions) (lifetime : List String) : List String :=
  piece "Path" o.path ++ piece "Domain" (o.domain.getD "") ++ lifetime ++
    (if o.httpOnly then ["HttpOnly"] else []) ++ (if o.secure then ["Secure"] else []) ++
    sameSitePieces o.sameSite

theorem pieces?_eq (o : CookieOptions) (name value : String) (now : Int) :
    o.pieces? name value now = (o.lifetime? now).map fun lifetime =>
      Cookie.pairText (name, if o.maxAge < 0 then "" else value) :: o.laterPieces lifetime := by
  rw [pieces?]
  cases o.lifetime? now with
  | none => rfl
  | some lifetime => simp [laterPieces, Cookie.pairText]

theorem isPrintableText_laterPieces {lifetime : List String} (hpath : IsPrintableText o.path)
    (hdomain : ∀ domain ∈ o.domain, IsPrintableText domain)
    (hlife : ∀ part ∈ lifetime, IsPrintableText part) :
    ∀ part ∈ o.laterPieces lifetime, IsPrintableText part := by
  have hd : IsPrintableText (o.domain.getD "") := by
    cases ho : o.domain with
    | none => intro c hc; cases hc
    | some domain => exact hdomain domain ho
  intro part hp
  simp only [laterPieces, List.mem_append] at hp
  rcases hp with ((((hp | hp) | hp) | hp) | hp) | hp
  · exact isPrintableText_piece (by decide) hpath part hp
  · exact isPrintableText_piece (by decide) hd part hp
  · exact hlife part hp
  · split at hp
    · cases List.mem_singleton.1 hp
      decide
    · cases hp
  · split at hp
    · cases List.mem_singleton.1 hp
      decide
    · cases hp
  · revert part
    cases o.sameSite <;> decide

/-- The text of a cookie begins with its name and its value, and perhaps has more behind a
semicolon. -/
theorem toList_of_render? (h : o.render? name value now = some text) :
    ∃ more, text.toList =
        (Cookie.pairText (name, if o.maxAge < 0 then "" else value)).toList ++ more ∧
      ∀ c ∈ more.head?, c = ';' := by
  rw [render?, pieces?_eq, Option.map_map] at h
  obtain ⟨lifetime, _, rfl⟩ := Option.map_eq_some_iff.1 h
  refine ⟨_, Text.toList_join_cons _ _ _, ?_⟩
  cases o.laterPieces lifetime with
  | nil => intro c hc; cases hc
  | cons first others =>
      intro c hc
      cases hc
      rfl

/-- A cookie whose end lies within the calendar has a text, which is printable. -/
theorem render?_eq_some (hn : Cookie.IsPlain name) (hv : Cookie.IsPlain value)
    (hpath : IsPrintableText o.path) (hdomain : ∀ domain ∈ o.domain, IsPrintableText domain)
    (hlife : (o.lifetime? now).isSome = true) :
    ∃ text more, o.render? name value now = some text ∧ IsPrintableText text ∧
      text.toList = (Cookie.pairText (name, if o.maxAge < 0 then "" else value)).toList ++ more ∧
      ∀ c ∈ more.head?, c = ';' := by
  obtain ⟨lifetime, hl⟩ := Option.isSome_iff_exists.1 hlife
  have hvalue : Cookie.IsPlain (if o.maxAge < 0 then "" else value) := by
    split
    · intro c hc
      cases hc
    · exact hv
  have hlater := isPrintableText_laterPieces hpath hdomain (isPrintableText_lifetime hl)
  have hr : o.render? name value now = some (Text.join "; "
      (Cookie.pairText (name, if o.maxAge < 0 then "" else value) :: o.laterPieces lifetime)) := by
    rw [render?, pieces?_eq, hl]
    rfl
  obtain ⟨more, htext, hmore⟩ := toList_of_render? hr
  refine ⟨_, more, hr, Cookie.isPrintableText_join fun part hp => ?_, htext, hmore⟩
  rcases List.mem_cons.1 hp with rfl | hp
  · exact Cookie.isPrintableText_pairText hn hvalue
  · exact hlater part hp

end CookieOptions

end Formwork
