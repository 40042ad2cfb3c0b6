import Formwork.Proofs.Calendar.Counting
import Formwork.Proofs.Session.Cookie

/-! # What the text that sets a cookie says

A reader of the text cuts it at semicolons, trims the pieces, and takes each piece behind the
first for an attribute. It finds just what the options ask for
(`CookieOptions.attributes_of_render?`): the path and the domain where there are any, the end of a
lifetime as a date and as an age, the flags that are set, and the sites. So the text determines the
options but for what a browser cannot tell apart, which is how negative an age is and whether an
absent domain is an empty one.
-/

namespace Formwork

open Calendar (firstSecond lastSecond)

/-! ## The reader -/

namespace Cookie

/-- The pieces of a text between semicolons, trimmed. -/
def piecesIn (text : String) : List String := (Text.split ';' text).map Text.trim

/-- A piece as an attribute: its name and, behind the first sign of equality, its value. -/
def attributeOf (piece : String) : String × Option String :=
  match Text.splitOnce? '=' piece with
  | some (name, value) => (name, some value)
  | none => (piece, none)

/-- A text that neither a cut at semicolons nor trimming changes. -/
structure IsClear (s : String) : Prop where
  whole : ';' ∉ s.toList
  trimmed : Text.trim s = s

instance (s : String) : Decidable (IsClear s) :=
  decidable_of_iff (';' ∉ s.toList ∧ Text.trim s = s)
    ⟨fun h => ⟨h.1, h.2⟩, fun h => ⟨h.whole, h.trimmed⟩⟩

variable {s name value : String} {parts : List String}

theorem isClear_of_ends (whole : ';' ∉ s.toList)
    (front : ∀ c ∈ s.toList.head?, CharClass.isSpace c = false)
    (back : ∀ c ∈ s.toList.getLast?, CharClass.isSpace c = false) : IsClear s := by
  refine ⟨whole, ?_⟩
  rw [Text.trim, Text.trimBy, Cut.trim_of_ends front back, String.ofList_toList]

theorem IsClear.trim_toList (h : IsClear s) : Cut.trim CharClass.isSpace s.toList = s.toList := by
  rw [← String.ofList_inj, String.ofList_toList]
  exact h.trimmed

theorem IsClear.front (h : IsClear s) : ∀ c ∈ s.toList.head?, CharClass.isSpace c = false := by
  rw [← h.trim_toList]
  exact fun c hc => Cut.head?_trim hc

theorem IsClear.back (h : IsClear s) : ∀ c ∈ s.toList.getLast?, CharClass.isSpace c = false := by
  rw [← h.trim_toList]
  exact fun c hc => Cut.getLast?_trim hc

/-- A name and a value are one piece, whatever the value begins with. -/
theorem isClear_pairText (hn : IsClear name) (hv : ';' ∉ value.toList)
    (back : ∀ c ∈ value.toList.getLast?, CharClass.isSpace c = false) :
    IsClear (pairText (name, value)) := by
  apply isClear_of_ends
  · rw [toList_pairText]
    simp [hn.whole, hv]
  · intro c hc
    rw [toList_pairText] at hc
    cases hl : name.toList with
    | nil =>
        rw [hl] at hc
        cases hc
        decide
    | cons first others =>
        have hfront := hn.front c
        rw [hl] at hc hfront
        exact hfront hc
  · intro c hc
    rw [toList_pairText, List.getLast?_append] at hc
    cases hl : value.toList.getLast? with
    | none =>
        rw [List.getLast?_eq_none_iff] at hl
        simp only [hl] at hc
        cases hc
        decide
    | some last =>
        rw [List.getLast?_cons, hl] at hc
        cases hc
        exact back last hl

theorem attributeOf_pairText (h : '=' ∉ name.toList) :
    attributeOf (pairText (name, value)) = (name, some value) := by
  rw [attributeOf, Text.splitOnce?_eq_some_iff.2 ⟨toList_pairText _, h⟩]

theorem attributeOf_of_not_mem (h : '=' ∉ s.toList) : attributeOf s = (s, none) := by
  rw [attributeOf, Text.splitOnce?_eq_none h]

/-- A piece as it stands behind another. -/
def behindBlank (part : String) : String := String.ofList (' ' :: part.toList)

theorem trim_behindBlank (part : String) : Text.trim (behindBlank part) = Text.trim part := by
  rw [behindBlank, trim_blank, String.ofList_toList]

/-- Pieces with `; ` between them are pieces with `;` between them, each but the first behind a
blank. -/
theorem split_join (hfree : ∀ part ∈ parts, ';' ∉ part.toList) (first : String)
    (hf : ';' ∉ first.toList) :
    Text.split ';' (Text.join "; " (first :: parts)) = first :: parts.map behindBlank := by
  have hjoin : Text.join "; " (first :: parts) =
      Text.join (String.singleton ';') (first :: parts.map behindBlank) := by
    rw [← String.toList_inj, Text.toList_join_cons, Text.toList_join_cons, List.flatMap_map]
    simp [behindBlank]
  rw [hjoin, Text.split_join (by simp)]
  intro part hp
  rcases List.mem_cons.1 hp with rfl | hp
  · exact hf
  · obtain ⟨other, ho, rfl⟩ := List.mem_map.1 hp
    simpa [behindBlank] using hfree other ho

/-- Pieces that were joined are found again. -/
theorem piecesIn_join (hne : parts ≠ []) (h : ∀ part ∈ parts, IsClear part) :
    piecesIn (Text.join "; " parts) = parts := by
  cases parts with
  | nil => exact absurd rfl hne
  | cons first others =>
      rw [List.forall_mem_cons] at h
      have hothers : (others.map behindBlank).map Text.trim = others := by
        rw [List.map_map]
        refine (List.map_congr_left fun part hp => ?_).trans (List.map_id _)
        exact (trim_behindBlank part).trans (h.2 part hp).trimmed
      rw [piecesIn, split_join (fun part hp => (h.2 part hp).whole) first h.1.whole, List.map_cons,
        hothers, h.1.trimmed]

end Cookie

namespace Decimal

theorem intText_inj {m n : Int} : intText m = intText n ↔ m = n := by
  constructor
  · intro h
    have hchars : ofInt m = ofInt n := String.ofList_inj.1 h
    have hminus : ∀ (a b : Nat), digits a ≠ '-' :: digits b := by
      intro a b he
      have hm : '-' ∈ digits a := by
        rw [he]
        exact List.mem_cons_self
      exact absurd (isAsciiDigit_of_mem_digits hm) (by decide)
    have hdigits : ∀ {a b : Nat}, digits a = digits b → a = b := by
      intro a b he
      rw [← value_digits a, he, value_digits]
    cases m with
    | ofNat a =>
        cases n with
        | ofNat b => exact congrArg Int.ofNat (hdigits hchars)
        | negSucc b => exact absurd hchars (hminus _ _)
    | negSucc a =>
        cases n with
        | ofNat b => exact absurd hchars.symm (hminus _ _)
        | negSucc b =>
            have hsucc := hdigits (List.cons.inj hchars).2
            rw [Nat.succ.inj hsucc]
  · exact congrArg intText

end Decimal

namespace Calendar

theorem not_mem_gmtText (d : DateTime) : ';' ∉ (gmtText d).toList := by
  intro h
  rcases mem_gmtText h with h | h
  · cases h
  · exact absurd h (by decide)

theorem getLast?_gmtText (d : DateTime) : (gmtText d).toList.getLast? = some 'T' := by
  rw [gmtText, String.toList_append, List.getLast?_append]
  rfl

end Calendar

namespace SameSite

/-- The word for a choice of sites; there is none for the default. -/
def word? : SameSite → Option String
  | .default => Option.none
  | .lax => "Lax"
  | .strict => "Strict"
  | .none => "None"

theorem word?_inj {a b : SameSite} : a.word? = b.word? ↔ a = b := by
  cases a <;> cases b <;> decide

end SameSite

namespace CookieOptions

open Cookie (attributeOf pairText)

variable {o other : CookieOptions} {name value key : String} {content : Option String} {now : Int}

/-- When a cookie set at a time ends: one that is to be deleted, a second after the start of
1970. -/
def ending (o : CookieOptions) (now : Int) : Int := if 0 < o.maxAge then now + o.maxAge else 1

/-- The attributes that options ask for at a time. -/
inductive Asks (o : CookieOptions) (now : Int) : String → Option String → Prop
  | path (nonempty : o.path ≠ "") : Asks o now "Path" (some o.path)
  | domain {domain : String} (given : o.domain = some domain) (nonempty : domain ≠ "") :
      Asks o now "Domain" (some domain)
  | expires {d : DateTime} (lasting : o.maxAge ≠ 0) (unix : d.toUnix = o.ending now)
      (whole : d.time.IsWhole) : Asks o now "Expires" (some (Calendar.gmtText d))
  | maxAge (lasting : o.maxAge ≠ 0) :
      Asks o now "Max-Age" (some (Decimal.intText (max 0 o.maxAge)))
  | httpOnly (set : o.httpOnly = true) : Asks o now "HttpOnly" none
  | secure (set : o.secure = true) : Asks o now "Secure" none
  | sameSite {word : String} (chosen : o.sameSite.word? = some word) :
      Asks o now "SameSite" (some word)

/-- The texts in the options are pieces of their own. -/
structure IsClear (o : CookieOptions) : Prop where
  path : Cookie.IsClear o.path
  domain : ∀ domain ∈ o.domain, Cookie.IsClear domain

/-- A lifetime ends within the calendar. -/
def EndsInCalendar (o : CookieOptions) (now : Int) : Prop :=
  firstSecond ≤ now + o.maxAge ∧ now + o.maxAge ≤ lastSecond

/-- What a browser is told is the same. -/
structure AsksSame (o other : CookieOptions) : Prop where
  path : o.path = other.path
  domain : o.domain.getD "" = other.domain.getD ""
  maxAge : o.maxAge = other.maxAge ∨ o.maxAge < 0 ∧ other.maxAge < 0
  secure : o.secure = other.secure
  httpOnly : o.httpOnly = other.httpOnly
  sameSite : o.sameSite = other.sameSite

/-! ## What is found -/

/-- The attributes in the order in which they are written. -/
def attributes (o : CookieOptions) (d : DateTime) : List (String × Option String) :=
  (if o.path = "" then [] else [("Path", some o.path)]) ++
    (if o.domain.getD "" = "" then [] else [("Domain", some (o.domain.getD ""))]) ++
    (if o.maxAge = 0 then []
      else [("Expires", some (Calendar.gmtText d)),
        ("Max-Age", some (Decimal.intText (max 0 o.maxAge)))]) ++
    (if o.httpOnly then [("HttpOnly", none)] else []) ++
    (if o.secure then [("Secure", none)] else []) ++
    o.sameSite.word?.toList.map fun word => ("SameSite", some word)

/-- The end of a lifetime as pieces. -/
def lifetimePieces (o : CookieOptions) (d : DateTime) : List String :=
  if o.maxAge = 0 then []
  else [pairText ("Expires", Calendar.gmtText d),
    pairText ("Max-Age", Decimal.intText (max 0 o.maxAge))]

variable {d : DateTime}

theorem exists_ending (h : 0 < o.maxAge → o.EndsInCalendar now) :
    ∃ d, DateTime.ofUnix? (o.ending now) = some d := by
  rw [← Option.isSome_iff_exists, DateTime.ofUnix?_isSome_iff, ending]
  split
  · rename_i hl
    exact h hl
  · decide

theorem gmtText_of_ofUnix?_one (h : DateTime.ofUnix? 1 = some d) :
    Calendar.gmtText d = "Thu, 01 Jan 1970 00:00:01 GMT" := by
  have hd : DateTime.ofUnix? 1 = some ⟨⟨1970, 1, 1, by decide⟩, ⟨0, 0, 1, 0⟩⟩ := by
    rw [DateTime.ofUnix?_eq_some_iff]
    exact ⟨by decide, ⟨by decide, by decide, by decide, rfl⟩⟩
  rw [hd] at h
  cases h
  decide +kernel

theorem lifetime?_eq (h : DateTime.ofUnix? (o.ending now) = some d) :
    o.lifetime? now = some (o.lifetimePieces d) := by
  unfold ending at h
  unfold lifetime? lifetimePieces
  split
  · rename_i hl
    rw [if_pos hl] at h
    rw [h, if_neg hl.ne', max_eq_right hl.le]
    rfl
  · rename_i hl
    rw [if_neg hl] at h
    split
    · rename_i hneg
      rw [if_neg hneg.ne, gmtText_of_ofUnix?_one h, max_eq_left hneg.le]
      decide +kernel
    · rw [if_pos (by omega)]

theorem map_attributeOf_laterPieces (o : CookieOptions) (d : DateTime) :
    (o.laterPieces (o.lifetimePieces d)).map attributeOf = o.attributes d := by
  have hpiece : ∀ key value : String, '=' ∉ key.toList → (piece key value).map attributeOf =
      if value = "" then [] else [(key, some value)] := by
    intro key value hk
    unfold piece
    split
    · rfl
    · exact congrArg ([·]) (Cookie.attributeOf_pairText hk)
  have hflag : ∀ (flag : Bool) (key : String), '=' ∉ key.toList →
      (if flag then [key] else []).map attributeOf = if flag then [(key, none)] else [] := by
    intro flag key hk
    cases flag with
    | false => rfl
    | true => exact congrArg ([·]) (Cookie.attributeOf_of_not_mem hk)
  have hlife : (o.lifetimePieces d).map attributeOf = if o.maxAge = 0 then []
      else [("Expires", some (Calendar.gmtText d)),
        ("Max-Age", some (Decimal.intText (max 0 o.maxAge)))] := by
    unfold lifetimePieces
    split
    · rfl
    · rw [List.map_cons, List.map_singleton, Cookie.attributeOf_pairText (by decide),
        Cookie.attributeOf_pairText (by decide)]
  have hsite : (sameSitePieces o.sameSite).map attributeOf =
      o.sameSite.word?.toList.map fun word => ("SameSite", some word) := by
    cases o.sameSite <;> decide +kernel
  simp only [laterPieces, attributes, List.map_append]
  rw [hpiece _ _ (by decide), hpiece _ _ (by decide), hlife, hflag _ _ (by decide),
    hflag _ _ (by decide), hsite]

/-- What is written is what the options ask for. -/
theorem mem_attributes_iff (h : DateTime.ofUnix? (o.ending now) = some d) :
    (key, content) ∈ o.attributes d ↔ o.Asks now key content := by
  constructor
  · intro hm
    simp only [attributes, List.mem_append, List.mem_ite_nil_left, List.mem_ite_nil_right,
      List.mem_cons, List.not_mem_nil, or_false, Prod.mk.injEq, List.mem_map,
      Option.mem_toList] at hm
    rcases hm with ((((hm | hm) | hm) | hm) | hm) | hm
    · obtain ⟨nonempty, rfl, rfl⟩ := hm
      exact .path nonempty
    · obtain ⟨nonempty, rfl, rfl⟩ := hm
      cases hd : o.domain with
      | none =>
          rw [hd] at nonempty
          exact absurd rfl nonempty
      | some domain =>
          rw [hd] at nonempty
          exact .domain hd nonempty
    · obtain ⟨lasting, hm⟩ := hm
      rcases hm with hm | hm
      · obtain ⟨rfl, rfl⟩ := hm
        obtain ⟨unix, whole⟩ := DateTime.ofUnix?_eq_some_iff.1 h
        exact .expires lasting unix whole
      · obtain ⟨rfl, rfl⟩ := hm
        exact .maxAge lasting
    · obtain ⟨set, rfl, rfl⟩ := hm
      exact .httpOnly set
    · obtain ⟨set, rfl, rfl⟩ := hm
      exact .secure set
    · obtain ⟨word, chosen, rfl, rfl⟩ := hm
      exact .sameSite chosen
  · intro hs
    cases hs with
    | path nonempty => simp [attributes, nonempty]
    | domain given nonempty => simp [attributes, given, nonempty]
    | expires lasting unix whole =>
        rw [DateTime.ofUnix?_eq_some_iff.2 ⟨unix, whole⟩] at h
        cases h
        simp [attributes, lasting]
    | maxAge lasting => simp [attributes, lasting]
    | httpOnly set => simp [attributes, set]
    | secure set => simp [attributes, set]
    | sameSite chosen => simp [attributes, chosen]

/-- No attribute is written twice. -/
theorem nodup_attributes (o : CookieOptions) (d : DateTime) :
    ((o.attributes d).map Prod.fst).Nodup := by
  have hsub : List.Sublist ((o.attributes d).map Prod.fst)
      (["Path"] ++ ["Domain"] ++ ["Expires", "Max-Age"] ++ ["HttpOnly"] ++ ["Secure"] ++
        ["SameSite"]) := by
    simp only [attributes, List.map_append]
    refine (((((List.Sublist.append ?_ ?_).append ?_).append ?_).append ?_).append ?_)
    case refine_6 => cases o.sameSite <;> decide
    all_goals split <;> simp
  exact hsub.nodup (by decide)

/-! ## What the text determines -/

theorem eq_of_content_iff {p q : String} (h : ∀ content : Option String,
    p ≠ "" ∧ content = some p ↔ q ≠ "" ∧ content = some q) : p = q := by
  by_cases hp : p = ""
  · by_contra hq
    have hq' : q ≠ "" := fun e => hq (hp.trans e.symm)
    exact ((h (some q)).2 ⟨hq', rfl⟩).1 hp
  · have hq := ((h (some p)).1 ⟨hp, rfl⟩).2
    cases hq
    rfl

theorem maxAge_of_content_iff {m n : Int} (h : ∀ content : Option String,
    m ≠ 0 ∧ content = some (Decimal.intText (max 0 m)) ↔
      n ≠ 0 ∧ content = some (Decimal.intText (max 0 n))) : m = n ∨ m < 0 ∧ n < 0 := by
  by_cases hm : m = 0
  · left
    by_contra hn
    have hn' : n ≠ 0 := fun e => hn (hm.trans e.symm)
    exact ((h _).2 ⟨hn', rfl⟩).1 hm
  · obtain ⟨hn, htext⟩ := (h _).1 ⟨hm, rfl⟩
    have hmax := Decimal.intText_inj.1 (Option.some_inj.1 htext)
    omega

/-- Options with the same attributes say the same. -/
theorem asksSame_of_attributes {e : DateTime} (h : o.attributes d = other.attributes e) :
    o.AsksSame other := by
  have hmem : ∀ key content,
      (key, content) ∈ o.attributes d ↔ (key, content) ∈ other.attributes e := by
    intro key content
    rw [h]
  constructor
  case path =>
    refine eq_of_content_iff fun content => ?_
    simpa [attributes] using hmem "Path" content
  case domain =>
    refine eq_of_content_iff fun content => ?_
    simpa [attributes] using hmem "Domain" content
  case maxAge =>
    refine maxAge_of_content_iff fun content => ?_
    simpa [attributes] using hmem "Max-Age" content
  case secure => simpa [attributes] using hmem "Secure" none
  case httpOnly => simpa [attributes] using hmem "HttpOnly" none
  case sameSite =>
    refine SameSite.word?_inj.1 (Option.ext fun word => ?_)
    simpa [attributes] using hmem "SameSite" (some word)

/-- Options that say the same are written alike. -/
theorem render?_of_asksSame (h : o.AsksSame other) (name value : String) (now : Int) :
    other.render? name value now = o.render? name value now := by
  have hlife : other.lifetime? now = o.lifetime? now := by
    unfold lifetime?
    rcases h.maxAge with hage | hage
    · rw [hage]
    · obtain ⟨hneg, hneg'⟩ := hage
      rw [if_neg hneg'.not_gt, if_pos hneg', if_neg hneg.not_gt, if_pos hneg]
  have hvalue : (other.maxAge < 0) = (o.maxAge < 0) := by
    apply propext
    rcases h.maxAge with hage | hage
    · rw [hage]
    · exact iff_of_true hage.2 hage.1
  unfold render? pieces?
  simp only [hlife, hvalue, h.path, h.domain, h.httpOnly, h.secure, h.sameSite]

/-! ## The text in pieces -/

theorem isClear_of_mem_piece (hk : Cookie.IsClear key) (hv : Cookie.IsClear value) :
    ∀ part ∈ piece key value, Cookie.IsClear part := by
  intro part hp
  unfold piece at hp
  split at hp
  · cases hp
  · rw [List.mem_singleton.1 hp]
    exact Cookie.isClear_pairText hk hv.whole hv.back

theorem isClear_of_mem_lifetimePieces :
    ∀ part ∈ o.lifetimePieces d, Cookie.IsClear part := by
  intro part hp
  unfold lifetimePieces at hp
  split at hp
  · cases hp
  · simp only [List.mem_cons, List.not_mem_nil, or_false] at hp
    rcases hp with rfl | rfl
    · refine Cookie.isClear_pairText (by decide) (Calendar.not_mem_gmtText d) fun c hc => ?_
      rw [Calendar.getLast?_gmtText] at hc
      cases hc
      decide
    · have hplain : ∀ c ∈ (Decimal.intText (max 0 o.maxAge)).toList,
          c ≠ ';' ∧ CharClass.isSpace c = false := by
        intro c hc
        rcases Decimal.mem_intText hc with hc | rfl
        · refine ⟨?_, CharClass.isSpace_of_isAsciiDigit hc⟩
          rintro rfl
          cases hc
        · decide
      exact Cookie.isClear_pairText (by decide) (fun hc => (hplain _ hc).1 rfl)
        fun c hc => (hplain c (List.mem_of_getLast? hc)).2

theorem isClear_of_mem_laterPieces (ho : o.IsClear) :
    ∀ part ∈ o.laterPieces (o.lifetimePieces d), Cookie.IsClear part := by
  have hdomain : Cookie.IsClear (o.domain.getD "") := by
    cases hd : o.domain with
    | none => decide
    | some domain => exact ho.domain domain hd
  have hflag : ∀ (flag : Bool) (key : String), Cookie.IsClear key →
      ∀ part ∈ if flag then [key] else [], Cookie.IsClear part := by
    intro flag key hk part hp
    cases flag with
    | false => cases hp
    | true => rwa [List.mem_singleton.1 hp]
  have hsites : ∀ part ∈ sameSitePieces o.sameSite, Cookie.IsClear part := by
    cases o.sameSite with
    | default => nofun
    | _ => exact fun part hp => List.mem_singleton.1 hp ▸ by decide
  intro part hp
  simp only [laterPieces, List.mem_append] at hp
  rcases hp with ((((hp | hp) | hp) | hp) | hp) | hp
  · exact isClear_of_mem_piece (by decide) ho.path part hp
  · exact isClear_of_mem_piece (by decide) hdomain part hp
  · exact isClear_of_mem_lifetimePieces part hp
  · exact hflag _ _ (by decide) part hp
  · exact hflag _ _ (by decide) part hp
  · exact hsites part hp

/-- The text exists, and is cut into the name with the value and the later pieces. -/
theorem piecesIn_of_render? (ho : o.IsClear) (hn : Cookie.IsClear name) (hv : Cookie.IsClear value)
    (h : DateTime.ofUnix? (o.ending now) = some d) :
    ∃ text, o.render? name value now = some text ∧
      Cookie.piecesIn text = pairText (name, if o.maxAge < 0 then "" else value) ::
        o.laterPieces (o.lifetimePieces d) := by
  have hpieces := pieces?_eq o name value now
  rw [lifetime?_eq h, Option.map_some] at hpieces
  refine ⟨_, by rw [render?, hpieces, Option.map_some], Cookie.piecesIn_join (by simp) ?_⟩
  have hvalue : Cookie.IsClear (if o.maxAge < 0 then "" else value) := by
    split
    · decide
    · exact hv
  intro part hp
  rcases List.mem_cons.1 hp with rfl | hp
  · exact Cookie.isClear_pairText hn hvalue.whole hvalue.back
  · exact isClear_of_mem_laterPieces ho part hp

/-- A reader of the text finds the name with the value, empty for a cookie that is to be
deleted, and then the attributes that the options ask for, none of them twice. Other options
give the same text just if they say the same. -/
theorem attributes_of_render? (ho : o.IsClear) (hn : Cookie.IsClear name)
    (hv : Cookie.IsClear value) (hend : 0 < o.maxAge → o.EndsInCalendar now) :
    ∃ text pieces, o.render? name value now = some text ∧
      Cookie.piecesIn text = pairText (name, if o.maxAge < 0 then "" else value) :: pieces ∧
      ((pieces.map attributeOf).map Prod.fst).Nodup ∧
      (∀ key content, (key, content) ∈ pieces.map attributeOf ↔ o.Asks now key content) ∧
      ∀ other : CookieOptions, other.IsClear → (0 < other.maxAge → other.EndsInCalendar now) →
        (other.render? name value now = some text ↔ o.AsksSame other) := by
  obtain ⟨d, hd⟩ := exists_ending hend
  obtain ⟨text, htext, hpieces⟩ := piecesIn_of_render? ho hn hv hd
  refine ⟨text, _, htext, hpieces, ?_, fun key content => ?_, fun other hother hother' => ?_⟩
  · rw [map_attributeOf_laterPieces]
    exact o.nodup_attributes d
  · rw [map_attributeOf_laterPieces]
    exact mem_attributes_iff hd
  · constructor
    · intro hsame
      obtain ⟨e, he⟩ := exists_ending hother'
      obtain ⟨text', htext', hpieces'⟩ := piecesIn_of_render? hother hn hv he
      rw [hsame] at htext'
      cases htext'
      have hlater := (List.cons.inj (hpieces.symm.trans hpieces')).2
      apply asksSame_of_attributes
      rw [← map_attributeOf_laterPieces, ← map_attributeOf_laterPieces, hlater]
    · intro hsame
      rw [render?_of_asksSame hsame, htext]

/-- A cookie of one day. -/
def dayCookie : CookieOptions :=
  { path := "/a=b c", domain := some "", maxAge := 86400, secure := true, sameSite := .lax }

/-- Set on the day before the leap day, it ends on the leap day. -/
theorem render?_dayCookie :
    dayCookie.IsClear ∧ Cookie.IsClear "sid" ∧ Cookie.IsClear "abc" ∧
    dayCookie.EndsInCalendar 1709078400 ∧
    ∃ text pieces, dayCookie.render? "sid" "abc" 1709078400 = some text ∧
      Cookie.piecesIn text = "sid=abc" :: pieces ∧
      ("Expires", some "Thu, 29 Feb 2024 00:00:00 GMT") ∈ pieces.map attributeOf ∧
      ("Path", some "/a=b c") ∈ pieces.map attributeOf ∧
      ∀ content, ("Domain", content) ∉ pieces.map attributeOf := by
  have hcookie : dayCookie.IsClear := by
    refine ⟨by decide, fun domain hd => ?_⟩
    cases hd
    decide
  have hname : Cookie.IsClear "sid" := by decide
  have hvalue : Cookie.IsClear "abc" := by decide
  have hend : dayCookie.EndsInCalendar 1709078400 := ⟨by decide, by decide⟩
  obtain ⟨text, pieces, htext, hpieces, _, hasks, _⟩ :=
    attributes_of_render? hcookie hname hvalue fun _ => hend
  refine ⟨hcookie, hname, hvalue, hend, text, pieces, htext, hpieces, ?_, ?_, fun content => ?_⟩
  · have hdate : Calendar.gmtText ⟨⟨2024, 2, 29, by decide⟩, {}⟩ =
        "Thu, 29 Feb 2024 00:00:00 GMT" := by decide +kernel
    rw [hasks, ← hdate]
    exact .expires (by decide) (by decide) ⟨by decide, by decide, by decide, rfl⟩
  · rw [hasks]
    exact .path (by decide)
  · rw [hasks]
    intro h
    generalize hkey : "Domain" = key at h
    cases h with
    | domain given nonempty =>
        cases given
        exact nonempty rfl
    | _ => exact absurd hkey (by decide)

end CookieOptions

end Formwork
