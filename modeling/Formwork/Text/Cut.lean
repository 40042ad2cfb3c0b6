/-! # Cutting and trimming

Operations on lists of characters (or octets) that cut at separators and strip
at the ends, and their versions on texts. A cut loses only the separators:
`joinWith_cutAt` puts the parts together again.
-/

namespace Formwork

namespace Cut

variable {α : Type}

/-- The parts between the elements that satisfy `p`; `n` such elements leave
`n + 1` parts. -/
def cutAt (p : α → Bool) : List α → List (List α)
  | [] => [[]]
  | x :: xs =>
    if p x then [] :: cutAt p xs
    else match cutAt p xs with
      | [] => [[x]]
      | part :: parts => (x :: part) :: parts

/-- What stands before and after the first element that satisfies `p`. -/
def atFirst? (p : α → Bool) : List α → Option (List α × List α)
  | [] => none
  | x :: xs =>
    if p x then some ([], xs)
    else (atFirst? p xs).map fun (before, after) => (x :: before, after)

/-- What stands before and after the last element that satisfies `p`. -/
def atLast? (p : α → Bool) (xs : List α) : Option (List α × List α) :=
  (atFirst? p xs.reverse).map fun (after, before) => (before.reverse, after.reverse)

/-- What stands before and after the first occurrence of `mark`. -/
def atMark? [BEq α] (mark : List α) : List α → Option (List α × List α)
  | [] => if mark.isEmpty then some ([], []) else none
  | x :: xs =>
    match mark.isPrefixOf? (x :: xs) with
    | some after => some ([], after)
    | none => (atMark? mark xs).map fun (before, after) => (x :: before, after)

/-- Without the elements at the end that satisfy `p`. -/
def dropEndWhile (p : α → Bool) (xs : List α) : List α := (xs.reverse.dropWhile p).reverse

/-- Without the elements at either end that satisfy `p`. -/
def trim (p : α → Bool) (xs : List α) : List α := dropEndWhile p (xs.dropWhile p)

/-- The parts with `sep` between them. -/
def joinWith (sep : α) : List (List α) → List α
  | [] => []
  | [part] => part
  | part :: parts => part ++ sep :: joinWith sep parts

theorem cutAt_ne_nil (p : α → Bool) (xs : List α) : cutAt p xs ≠ [] := by
  cases xs with
  | nil => simp [cutAt]
  | cons x xs =>
    unfold cutAt
    split
    · simp
    · split <;> simp

theorem joinWith_cutAt [BEq α] [LawfulBEq α] (sep : α) (xs : List α) :
    joinWith sep (cutAt (· == sep) xs) = xs := by
  induction xs with
  | nil => rfl
  | cons x xs ih =>
    unfold cutAt
    split
    · rename_i h
      cases hc : cutAt (· == sep) xs with
      | nil => exact absurd hc (cutAt_ne_nil _ xs)
      | cons part parts => rw [hc] at ih; simp [joinWith, ih, eq_of_beq h]
    · cases hc : cutAt (· == sep) xs with
      | nil => exact absurd hc (cutAt_ne_nil _ xs)
      | cons part parts =>
        rw [hc] at ih
        cases parts with
        | nil => simp [joinWith] at ih ⊢; exact ih
        | cons => simp [joinWith] at ih ⊢; exact ih

/-- No part holds an element that was cut at. -/
theorem not_mem_of_mem_cutAt {p : α → Bool} {xs part : List α} (h : part ∈ cutAt p xs) {x : α}
    (hx : x ∈ part) : p x = false := by
  induction xs generalizing part with
  | nil => simp [cutAt] at h; subst h; simp at hx
  | cons y xs ih =>
    unfold cutAt at h
    split at h
    · rcases List.mem_cons.1 h with h | h
      · subst h; cases hx
      · exact ih h hx
    · rename_i hp
      cases hc : cutAt p xs with
      | nil => exact absurd hc (cutAt_ne_nil p xs)
      | cons first others =>
        simp only [hc] at h ih
        rcases List.mem_cons.1 h with rfl | h
        · rcases List.mem_cons.1 hx with rfl | hx
          · simpa using hp
          · exact ih List.mem_cons_self hx
        · exact ih (List.mem_cons_of_mem _ h) hx

theorem atFirst?_eq_some {p : α → Bool} {xs before after : List α}
    (h : atFirst? p xs = some (before, after)) :
    ∃ x, p x = true ∧ xs = before ++ x :: after ∧ ∀ y ∈ before, p y = false := by
  induction xs generalizing before with
  | nil => simp [atFirst?] at h
  | cons x xs ih =>
    unfold atFirst? at h
    split at h
    · rename_i hp
      simp only [Option.some.injEq, Prod.mk.injEq] at h
      obtain ⟨rfl, rfl⟩ := h
      exact ⟨x, hp, rfl, fun _ h => nomatch h⟩
    · rename_i hp
      obtain ⟨⟨b, a⟩, hf, he⟩ := Option.map_eq_some_iff.1 h
      simp at he
      obtain ⟨rfl, rfl⟩ := he
      obtain ⟨y, hy, hxs, hb⟩ := ih hf
      refine ⟨y, hy, by simp [hxs], ?_⟩
      intro z hz
      rcases List.mem_cons.1 hz with rfl | hz
      · simpa using hp
      · exact hb z hz

theorem atFirst?_append {p : α → Bool} {before after : List α} {x : α} (hx : p x = true)
    (hb : ∀ y ∈ before, p y = false) :
    atFirst? p (before ++ x :: after) = some (before, after) := by
  induction before with
  | nil => simp [atFirst?, hx]
  | cons y ys ih =>
    have hy := hb y List.mem_cons_self
    simp [atFirst?, hy, ih fun z hz => hb z (List.mem_cons_of_mem _ hz)]

theorem atFirst?_eq_none_iff {p : α → Bool} {xs : List α} :
    atFirst? p xs = none ↔ ∀ x ∈ xs, p x = false := by
  induction xs with
  | nil => simp [atFirst?]
  | cons x xs ih =>
    unfold atFirst?
    split
    · rename_i h; simp [h]
    · rename_i h; simp [ih, h]

end Cut

namespace Text

/-- The parts of a text between occurrences of `sep`. -/
def split (sep : Char) (s : String) : List String :=
  (Cut.cutAt (· == sep) s.toList).map String.ofList

/-- What stands before and after the first `sep`. -/
def splitOnce? (sep : Char) (s : String) : Option (String × String) :=
  (Cut.atFirst? (· == sep) s.toList).map fun (a, b) => (String.ofList a, String.ofList b)

/-- Without the characters at either end that satisfy `p`. -/
def trimBy (p : Char → Bool) (s : String) : String := String.ofList (Cut.trim p s.toList)

/-- Without the characters at the end that satisfy `p`. -/
def trimEndBy (p : Char → Bool) (s : String) : String :=
  String.ofList (Cut.dropEndWhile p s.toList)

/-- The rest of `s` after `head`, if `s` begins with it. -/
def afterHead? (head s : String) : Option String :=
  (head.toList.isPrefixOf? s.toList).map String.ofList

/-- The text begins with `head`. -/
def hasHead (head s : String) : Bool := head.toList.isPrefixOf s.toList

/-- The text ends with `tail`. -/
def hasTail (tail s : String) : Bool := tail.toList.isSuffixOf s.toList

/-- Texts with `sep` between them. -/
def join (sep : String) (parts : List String) : String := sep.intercalate parts

/-- ASCII capitals in lower case; every other character unchanged. -/
def lowerAscii (s : String) : String :=
  s.map fun c => if 'A' ≤ c ∧ c ≤ 'Z' then Char.ofNat (c.toNat + 32) else c

end Text

end Formwork
