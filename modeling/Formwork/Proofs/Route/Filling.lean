import Formwork.Proofs.Route.Lookup

/-! # Filling the placeholders of a path

A path is cut from the left: where a placeholder stands it is taken whole, and any other
character stands for itself. There is one such cut (`PathPart.cuts_iff`). A named route is
filled along the cut of its path, each placeholder by the value of its name, and the first
placeholder without a value is the one that is missed (`RouteTable.urlFor_fills_cut`).
-/

namespace Formwork

namespace PathPart

/-- What may stand between the braces of a placeholder: at least one character, and no brace. -/
def IsInner (inner : List Char) : Prop := inner ≠ [] ∧ ∀ c ∈ inner, isBrace c = false

/-- A placeholder stands at the front. -/
def BeginsPlaceholder (cs : List Char) : Prop :=
  ∃ inner after, IsInner inner ∧ cs = '\x7b' :: inner ++ '\x7d' :: after

/-- The characters are cut from the left into placeholders and, where no placeholder begins,
characters that stand for themselves. -/
inductive Cuts : List Char → List PathPart → Prop
  | nil : Cuts [] []
  | placeholder {inner rest : List Char} {parts : List PathPart} (inside : IsInner inner)
      (cut : Cuts rest parts) :
      Cuts ('\x7b' :: inner ++ '\x7d' :: rest) (.placeholder inner :: parts)
  | literal {c : Char} {rest : List Char} {parts : List PathPart}
      (plain : ¬ BeginsPlaceholder (c :: rest)) (cut : Cuts rest parts) :
      Cuts (c :: rest) (.literal c :: parts)

/-! ## The cut of a path -/

variable {cs inner after : List Char} {parts : List PathPart}

theorem isInner_of_placeholder? (h : placeholder? cs = some (inner, after)) : IsInner inner := by
  unfold placeholder? at h
  split at h
  · split at h
    · cases h
    · rename_i hne
      cases h
      refine ⟨fun he => hne (List.isEmpty_iff.2 he), fun c hc => ?_⟩
      simpa using List.mem_takeWhile_imp hc
  · cases h

/-- A character at which no placeholder begins is a part by itself. -/
theorem ofChars_literal {c : Char} {rest : List Char} (h : ¬ BeginsPlaceholder (c :: rest)) :
    ofChars (c :: rest) = .literal c :: ofChars rest := by
  rw [ofChars]
  split
  · rename_i hc
    split
    · rename_i inner after hp
      refine absurd ⟨inner, after, isInner_of_placeholder? hp, ?_⟩ h
      rw [hc, List.cons_append, placeholder?_chars hp]
    · rfl
  · rfl

/-- There is exactly one cut. -/
theorem cuts_iff : Cuts cs parts ↔ ofChars cs = parts := by
  constructor
  · intro h
    induction h with
    | nil => rw [ofChars]
    | placeholder inside _ ih => rw [ofChars_placeholder inside.1 inside.2, ih]
    | literal plain _ ih => rw [ofChars_literal plain, ih]
  · rintro rfl
    fun_induction ofChars cs with
    | case1 => exact .nil
    | case2 rest inner after hp ih =>
        have hcut := Cuts.placeholder (isInner_of_placeholder? hp) ih
        rwa [List.cons_append, placeholder?_chars hp] at hcut
    | case3 rest hp ih =>
        refine .literal ?_ ih
        rintro ⟨inner, after, hinner, he⟩
        rw [List.cons_append, List.cons_eq_cons] at he
        rw [he.2, placeholder?_append hinner.1 hinner.2] at hp
        cases hp
    | case4 c rest hc ih =>
        refine .literal ?_ ih
        rintro ⟨inner, after, _, he⟩
        cases he
        exact hc rfl

/-! ## Values for placeholders -/

variable {params : List (String × String)} {part : PathPart}

/-- The part needs no value, or the list has one for its name. -/
def HasValue (params : List (String × String)) : PathPart → Prop
  | .literal _ => True
  | .placeholder inner => ∃ value, params.lookup (key inner) = some value

/-- The part with the value of its name, the first one in the list, in place of the
placeholder. -/
def filled (params : List (String × String)) : PathPart → List Char
  | .literal c => [c]
  | .placeholder inner => ((params.lookup (key inner)).getD "").toList

theorem fill_of_hasValue (h : part.HasValue params) :
    part.fill params = .ok (part.filled params) := by
  cases part with
  | literal c => rfl
  | placeholder inner =>
      obtain ⟨value, hl⟩ := h
      simp only [fill, filled, hl, Option.getD_some]

theorem fill_eq_error_iff {name : String} :
    part.fill params = .error name ↔
      ∃ inner, part = .placeholder inner ∧ params.lookup (key inner) = none ∧
        key inner = name := by
  constructor
  · intro h
    cases part with
    | literal c => cases h
    | placeholder inner =>
        simp only [fill] at h
        split at h
        · cases h
        · rename_i hl
          cases h
          exact ⟨inner, rfl, hl, rfl⟩
  · rintro ⟨inner, rfl, hl, rfl⟩
    simp only [fill, hl]

theorem exists_fill_iff : (∃ out, part.fill params = .ok out) ↔ part.HasValue params := by
  constructor
  · rintro ⟨out, h⟩
    cases part with
    | literal c => trivial
    | placeholder inner =>
        cases hl : params.lookup (key inner) with
        | some value => exact ⟨value, hl⟩
        | none =>
            rw [fill_eq_error_iff.2 ⟨inner, rfl, hl, rfl⟩] at h
            cases h
  · intro h
    exact ⟨_, fill_of_hasValue h⟩

theorem mapM_fill_eq_ok_iff {out : List (List Char)} :
    parts.mapM (fill params) = .ok out ↔
      (∀ part ∈ parts, part.HasValue params) ∧ out = parts.map (filled params) := by
  have hfilled : (∀ part ∈ parts, part.HasValue params) →
      parts.mapM (fill params) = .ok (parts.map (filled params)) := by
    intro h
    apply mapM_eq_ok_of_forall₂
    rw [List.forall₂_map_right_iff, List.forall₂_same]
    exact fun part hp => fill_of_hasValue (h part hp)
  constructor
  · intro h
    have hall : ∀ part ∈ parts, part.HasValue params :=
      fun part hp => exists_fill_iff.1 (exists_mapM_eq_ok_iff.1 ⟨out, h⟩ part hp)
    rw [hfilled hall] at h
    exact ⟨hall, (Except.ok.inj h).symm⟩
  · rintro ⟨hall, rfl⟩
    exact hfilled hall

theorem mapM_fill_eq_error_iff {name : String} :
    parts.mapM (fill params) = .error name ↔
      ∃ front inner back, parts = front ++ .placeholder inner :: back ∧
        (∀ part ∈ front, part.HasValue params) ∧ params.lookup (key inner) = none ∧
        key inner = name := by
  simp only [mapM_eq_error_iff, exists_fill_iff, fill_eq_error_iff]
  constructor
  · rintro ⟨front, _, back, hparts, hfront, inner, rfl, hl, hname⟩
    exact ⟨front, inner, back, hparts, hfront, hl, hname⟩
  · rintro ⟨front, inner, back, hparts, hfront, hl, hname⟩
    exact ⟨front, _, back, hparts, hfront, inner, rfl, hl, hname⟩

end PathPart

open PathPart (Cuts HasValue filled)

namespace RouteTable

variable {t : RouteTable} {name pattern : String} {params : List (String × String)}

theorem urlFor_eq_ok_iff (hp : t.pattern? name = some pattern) {url : String} :
    t.urlFor name params = .ok url ↔
      ∃ out, (PathPart.ofChars pattern.toList).mapM (PathPart.fill params) = .ok out ∧
        url.toList = out.flatten := by
  simp only [urlFor, hp]
  cases (PathPart.ofChars pattern.toList).mapM (PathPart.fill params) with
  | error key => exact iff_of_false (by simp) (by simp)
  | ok out =>
      rw [Except.ok.injEq, ← String.toList_inj, String.toList_ofList, eq_comm]
      simp

theorem urlFor_eq_missing_iff (hp : t.pattern? name = some pattern) {route key : String} :
    t.urlFor name params = .error (.missingParam route key) ↔
      route = name ∧
        (PathPart.ofChars pattern.toList).mapM (PathPart.fill params) = .error key := by
  simp only [urlFor, hp]
  cases (PathPart.ofChars pattern.toList).mapM (PathPart.fill params) with
  | error found => simp [eq_comm]
  | ok out => exact iff_of_false (by simp) (by simp)

/-- A name that the table does not have is unknown. The path of any other is cut into literal
characters and placeholders in the one way that there is. If every placeholder has a value, the
result is the path with the values in their places, which are not looked through again; if not,
it says which is the first placeholder without one. -/
theorem urlFor_fills_cut (t : RouteTable) (name : String) (params : List (String × String)) :
    (∀ unknown, t.urlFor name params = .error (.unknownRoute unknown) ↔
      t.contains name = false ∧ unknown = name) ∧
    ∀ pattern, t.pattern? name = some pattern →
      ∃ parts, (∀ others, Cuts pattern.toList others ↔ others = parts) ∧
        (∀ url, t.urlFor name params = .ok url ↔
          (∀ part ∈ parts, part.HasValue params) ∧
            url.toList = parts.flatMap (filled params)) ∧
        ∀ route key, t.urlFor name params = .error (.missingParam route key) ↔
          route = name ∧ ∃ front inner back, parts = front ++ .placeholder inner :: back ∧
            (∀ part ∈ front, part.HasValue params) ∧
            params.lookup (PathPart.key inner) = none ∧ PathPart.key inner = key := by
  constructor
  · intro unknown
    unfold urlFor contains Dict.contains
    cases hp : t.paths.get? name with
    | none => simp [pattern?, hp, eq_comm]
    | some pattern =>
        simp only [pattern?, hp, Option.isSome_some, Bool.true_eq_false, false_and, iff_false]
        cases (PathPart.ofChars pattern.toList).mapM (PathPart.fill params) <;> simp
  · intro pattern hp
    have hcut : ∀ others, Cuts pattern.toList others ↔ others = PathPart.ofChars pattern.toList :=
      fun others => PathPart.cuts_iff.trans eq_comm
    refine ⟨PathPart.ofChars pattern.toList, hcut, fun url => ?_, fun route key => ?_⟩
    · rw [urlFor_eq_ok_iff hp]
      simp only [PathPart.mapM_fill_eq_ok_iff, and_assoc, exists_and_left, exists_eq_left,
        List.flatMap_def]
    · rw [urlFor_eq_missing_iff hp, PathPart.mapM_fill_eq_error_iff]

/-- A brace that begins no placeholder stays, braces in a value are copied, the first value
of a name counts, and so does the first placeholder without value. -/
theorem urlFor_doubled_brace :
    let t : RouteTable := ⟨⟨[("post", "/\x7b\x7bid\x7d/\x7b*rest\x7d")], by simp⟩⟩
    t.pattern? "post" = some "/\x7b\x7bid\x7d/\x7b*rest\x7d" ∧
      t.urlFor "post" [("id", "\x7brest\x7d"), ("rest", "a/b"), ("id", "8")] =
        .ok "/\x7b\x7brest\x7d/a/b" ∧
      t.urlFor "post" [("*rest", "a")] = .error (.missingParam "post" "id") := by
  intro t
  have hpattern : t.pattern? "post" = some "/\x7b\x7bid\x7d/\x7b*rest\x7d" := rfl
  have hcut : Cuts "/\x7b\x7bid\x7d/\x7b*rest\x7d".toList
      [.literal '/', .literal '\x7b', .placeholder ['i', 'd'], .literal '/',
        .placeholder ['*', 'r', 'e', 's', 't']] := by
    rw [PathPart.cuts_iff]
    decide +kernel
  refine ⟨hpattern, ?_, ?_⟩
  · obtain ⟨parts, hparts, hok, _⟩ := (urlFor_fills_cut t "post"
      [("id", "\x7brest\x7d"), ("rest", "a/b"), ("id", "8")]).2 _ hpattern
    cases (hparts _).1 hcut
    refine (hok _).2 ⟨?_, rfl⟩
    simp only [List.forall_mem_cons]
    exact ⟨trivial, trivial, ⟨"\x7brest\x7d", rfl⟩, trivial, ⟨"a/b", rfl⟩, nofun⟩
  · obtain ⟨parts, hparts, _, hmissing⟩ :=
      (urlFor_fills_cut t "post" [("*rest", "a")]).2 _ hpattern
    cases (hparts _).1 hcut
    exact (hmissing _ _).2 ⟨rfl, [.literal '/', .literal '\x7b'], ['i', 'd'], _, rfl,
      by simp [HasValue], rfl, rfl⟩

end RouteTable

end Formwork
