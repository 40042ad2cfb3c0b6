import Formwork.Text.Cut
import Mathlib.Data.List.Infix
import Mathlib.Data.List.TakeWhile

/-! # Cuts of texts that were put together

Where a separator does not occur in a part, a cut at it finds the part again: the first
separator behind the part in front, the last one before the part at the end, and all of
them between parts that were joined.
-/

namespace Formwork

namespace Cut

variable {α : Type} {p : α → Bool}

theorem beq_eq_false_of_not_mem [BEq α] [LawfulBEq α] {x : α} {xs : List α} (h : x ∉ xs) :
    ∀ y ∈ xs, (y == x) = false := by
  intro y hy
  rw [beq_eq_false_iff_ne]
  exact fun e => h (e ▸ hy)

theorem atLast?_append {before after : List α} {x : α} (hx : p x = true)
    (ha : ∀ y ∈ after, p y = false) :
    atLast? p (before ++ x :: after) = some (before, after) := by
  have hr : (before ++ x :: after).reverse = after.reverse ++ x :: before.reverse := by simp
  have hf : atFirst? p (after.reverse ++ x :: before.reverse) =
      some (after.reverse, before.reverse) :=
    atFirst?_append hx fun y hy => ha y (List.mem_reverse.1 hy)
  rw [atLast?, hr, hf]
  simp only [Option.map_some, List.reverse_reverse]

theorem atLast?_eq_some {xs before after : List α} (h : atLast? p xs = some (before, after)) :
    ∃ x, p x = true ∧ xs = before ++ x :: after ∧ ∀ y ∈ after, p y = false := by
  obtain ⟨⟨front, back⟩, hf, he⟩ := Option.map_eq_some_iff.1 h
  cases he
  obtain ⟨x, hx, hr, hfree⟩ := atFirst?_eq_some hf
  refine ⟨x, hx, ?_, fun y hy => hfree y (List.mem_reverse.1 hy)⟩
  rw [← List.reverse_reverse xs, hr]
  simp

/-- A list has one cut at the last separator. -/
theorem append_inj_last {a b c d : List α} {x : α} (hx : p x = true)
    (hb : ∀ y ∈ b, p y = false) (hd : ∀ y ∈ d, p y = false)
    (h : a ++ x :: b = c ++ x :: d) : a = c ∧ b = d := by
  have hl : atLast? p (a ++ x :: b) = some (a, b) := atLast?_append hx hb
  rw [h, atLast?_append hx hd] at hl
  cases hl
  exact ⟨rfl, rfl⟩

theorem cutAt_of_forall {part : List α} (h : ∀ y ∈ part, p y = false) :
    cutAt p part = [part] := by
  induction part with
  | nil => rfl
  | cons y part ih =>
      have hy := h y List.mem_cons_self
      rw [cutAt, ih fun z hz => h z (List.mem_cons_of_mem _ hz), hy]
      rfl

theorem cutAt_cons_of_not {x : α} (hx : p x = false) {part : List α} {parts : List (List α)}
    {xs : List α} (h : cutAt p xs = part :: parts) : cutAt p (x :: xs) = (x :: part) :: parts := by
  simp [cutAt, hx, h]

theorem cutAt_append {part : List α} {x : α} (hx : p x = true) (h : ∀ y ∈ part, p y = false)
    (rest : List α) : cutAt p (part ++ x :: rest) = part :: cutAt p rest := by
  induction part with
  | nil => simp [cutAt, hx]
  | cons y part ih =>
      have hy := h y List.mem_cons_self
      rw [List.cons_append, cutAt, ih fun z hz => h z (List.mem_cons_of_mem _ hz), hy]
      rfl

theorem cutAt_joinWith {sep : α} (hs : p sep = true) {parts : List (List α)} (hne : parts ≠ [])
    (h : ∀ part ∈ parts, ∀ y ∈ part, p y = false) : cutAt p (joinWith sep parts) = parts := by
  induction parts with
  | nil => exact absurd rfl hne
  | cons part parts ih =>
      have hpart := h part List.mem_cons_self
      cases parts with
      | nil => exact cutAt_of_forall hpart
      | cons second others =>
          have hrest := ih (by simp) fun other ho => h other (List.mem_cons_of_mem _ ho)
          rw [joinWith, cutAt_append hs hpart, hrest]
          exact List.cons_ne_nil second others

/-- A scan ends where the first element stands that it does not take. -/
theorem takeWhile_append_of_ends {taken more : List α} (ht : ∀ x ∈ taken, p x = true)
    (hm : ∀ x ∈ more.head?, p x = false) : (taken ++ more).takeWhile p = taken := by
  have hmore : more.takeWhile p = [] := by
    cases more with
    | nil => rfl
    | cons x more =>
        have hx := hm x rfl
        simp [hx]
  rw [List.takeWhile_append_of_pos ht, hmore, List.append_nil]

/-! ## Marks -/

/-- A list that begins with parts of two others, and does not hold what stands between them,
begins with a part of the first. -/
theorem prefix_of_prefix_append_cons {xs ys zs : List α} {x : α} (hx : x ∉ xs)
    (h : xs <+: ys ++ x :: zs) : xs <+: ys := by
  rcases List.prefix_or_prefix_of_prefix h (List.prefix_append ys _) with hp | ⟨rest, rfl⟩
  · exact hp
  · rw [List.prefix_append_right_inj] at h
    cases rest with
    | nil => simp
    | cons z rest =>
        have hz : z = x := (List.cons_prefix_cons.1 h).1
        exact absurd (by simp [hz]) hx

section Marks

variable [BEq α] [LawfulBEq α] {x : α} {mark : List α}

theorem isPrefixOf?_append (mark after : List α) :
    mark.isPrefixOf? (mark ++ after) = some after :=
  List.isPrefixOf?_eq_some_iff_append_eq.2 rfl

theorem isPrefixOf?_eq_none {xs : List α} (h : ¬ mark <+: xs) : mark.isPrefixOf? xs = none := by
  cases hp : mark.isPrefixOf? xs with
  | none => rfl
  | some after => exact absurd ⟨after, List.isPrefixOf?_eq_some_iff_append_eq.1 hp⟩ h

/-- A mark at the front is found there. -/
theorem atMark?_self (hm : mark ≠ []) (after : List α) :
    atMark? mark (mark ++ after) = some ([], after) := by
  cases mark with
  | nil => exact absurd rfl hm
  | cons x mark =>
      have hp := isPrefixOf?_append (x :: mark) after
      rw [List.cons_append] at hp ⊢
      rw [atMark?, hp]

theorem atMark?_cons {y : α} {xs : List α} (h : ¬ mark <+: y :: xs) :
    atMark? mark (y :: xs) = (atMark? mark xs).map fun (before, after) => (y :: before, after) := by
  rw [atMark?, isPrefixOf?_eq_none h]

/-- What does not hold the first element of a mark is left behind. -/
theorem atMark?_append {xs : List α} (hx : x ∉ xs) {ys before after : List α}
    (h : atMark? (x :: mark) ys = some (before, after)) :
    atMark? (x :: mark) (xs ++ ys) = some (xs ++ before, after) := by
  induction xs with
  | nil => exact h
  | cons y xs ih =>
      rw [List.mem_cons, not_or] at hx
      have hn : ¬ x :: mark <+: y :: (xs ++ ys) := by
        rw [List.cons_prefix_cons]
        exact fun hp => hx.1 hp.1
      rw [List.cons_append, atMark?_cons hn, ih hx.2]
      rfl

/-- A mark whose first element is nowhere else in it is found behind what does not hold it:
it cannot begin there and end in itself. -/
theorem atMark?_content (hx : x ∉ mark) {content : List α} (hc : ¬ x :: mark <:+: content)
    (after : List α) :
    atMark? (x :: mark) (content ++ (x :: mark ++ after)) = some (content, after) := by
  induction content with
  | nil => exact atMark?_self (by simp) after
  | cons y content ih =>
      have hn : ¬ x :: mark <+: y :: (content ++ (x :: mark ++ after)) := by
        intro hp
        obtain ⟨rfl, hm⟩ := List.cons_prefix_cons.1 hp
        exact hc (List.cons_prefix_cons.2 ⟨rfl, prefix_of_prefix_append_cons hx hm⟩).isInfix
      have hrest : ¬ x :: mark <:+: content :=
        fun h => hc (h.trans (List.suffix_cons y content).isInfix)
      rw [List.cons_append, atMark?_cons hn, ih hrest]
      rfl

end Marks

theorem trim_cons {x : α} (hx : p x = true) (xs : List α) : trim p (x :: xs) = trim p xs := by
  simp [trim, hx]

theorem trim_append_of_forall {front : List α} (h : ∀ x ∈ front, p x = true) (xs : List α) :
    trim p (front ++ xs) = trim p xs := by
  rw [trim, List.dropWhile_append_of_pos h, trim]

theorem trim_of_ends {xs : List α} (hf : ∀ x ∈ xs.head?, p x = false)
    (hl : ∀ x ∈ xs.getLast?, p x = false) : trim p xs = xs := by
  have hd : xs.dropWhile p = xs := by
    cases xs with
    | nil => rfl
    | cons x xs =>
        have hx := hf x rfl
        simp [hx]
  have he : xs.reverse.dropWhile p = xs.reverse := by
    cases hr : xs.reverse with
    | nil => rfl
    | cons x ys =>
        have hx : p x = false := by
          apply hl x
          rw [List.getLast?_eq_head?_reverse, hr]
          rfl
        simp [hx]
  rw [trim, hd, dropEndWhile, he, List.reverse_reverse]

theorem trim_of_forall {xs : List α} (h : ∀ x ∈ xs, p x = false) : trim p xs = xs :=
  trim_of_ends (fun x hx => h x (List.mem_of_head? hx)) fun x hx => h x (List.mem_of_getLast? hx)

theorem countP_dropWhile {q : α → Bool} (h : ∀ x, p x = true → q x = false) (xs : List α) :
    (xs.dropWhile p).countP q = xs.countP q := by
  induction xs with
  | nil => rfl
  | cons x xs ih =>
      by_cases hp : p x = true
      · rw [List.dropWhile_cons_of_pos hp, ih, List.countP_cons_of_neg (by simp [h x hp])]
      · rw [List.dropWhile_cons_of_neg hp]

theorem countP_trim {q : α → Bool} (h : ∀ x, p x = true → q x = false) (xs : List α) :
    (trim p xs).countP q = xs.countP q := by
  rw [trim, dropEndWhile, List.countP_reverse, countP_dropWhile h, List.countP_reverse,
    countP_dropWhile h]

/-- What is stripped at the end is stripped from the end of what stands behind, and goes on
in front of it only if nothing is left there. -/
theorem dropEndWhile_append (xs ys : List α) :
    dropEndWhile p (xs ++ ys) =
      if ∀ y ∈ ys, p y = true then dropEndWhile p xs else xs ++ dropEndWhile p ys := by
  have hall : (∀ y ∈ ys, p y = true) ↔ (ys.reverse.dropWhile p).isEmpty = true := by
    rw [List.isEmpty_iff, List.dropWhile_eq_nil_iff]
    simp only [List.mem_reverse]
  rw [dropEndWhile, List.reverse_append, List.dropWhile_append]
  by_cases h : ∀ y ∈ ys, p y = true
  · rw [if_pos h, if_pos (hall.1 h), dropEndWhile]
  · rw [if_neg h, if_neg (mt hall.2 h), List.reverse_append, List.reverse_reverse, dropEndWhile]

theorem trim_append_end {back : List α} (h : ∀ x ∈ back, p x = true) (xs : List α) :
    trim p (xs ++ back) = trim p xs := by
  have hback : back.dropWhile p = [] := List.dropWhile_eq_nil_iff.2 h
  rw [trim, trim, List.dropWhile_append]
  split
  · rename_i he
    rw [List.isEmpty_iff.1 he, hback]
  · rw [dropEndWhile_append, if_pos h]

theorem dropEndWhile_isPrefix (xs : List α) : dropEndWhile p xs <+: xs := by
  have hs := List.reverse_prefix.2 (@List.dropWhile_suffix α xs.reverse p)
  rwa [List.reverse_reverse] at hs

theorem getLast?_dropEndWhile {xs : List α} {x : α} (h : (dropEndWhile p xs).getLast? = some x) :
    p x = false := by
  rw [dropEndWhile, List.getLast?_reverse] at h
  have hd := List.head?_dropWhile_not p xs.reverse
  rw [h] at hd
  exact hd

/-- Trimming takes away what stands at the ends. -/
theorem exists_append_trim (p : α → Bool) (xs : List α) :
    ∃ front back, xs = front ++ trim p xs ++ back ∧ (∀ x ∈ front, p x = true) ∧
      ∀ x ∈ back, p x = true := by
  refine ⟨xs.takeWhile p, ((xs.dropWhile p).reverse.takeWhile p).reverse, ?_, ?_, ?_⟩
  · have hrest : xs.dropWhile p =
        trim p xs ++ ((xs.dropWhile p).reverse.takeWhile p).reverse := by
      rw [trim, dropEndWhile, ← List.reverse_append, List.takeWhile_append_dropWhile,
        List.reverse_reverse]
    rw [List.append_assoc, ← hrest, List.takeWhile_append_dropWhile]
  · exact fun x hx => List.mem_takeWhile_imp hx
  · exact fun x hx => List.mem_takeWhile_imp (List.mem_reverse.1 hx)

theorem getLast?_trim {xs : List α} {x : α} (h : (trim p xs).getLast? = some x) : p x = false :=
  getLast?_dropEndWhile h

theorem head?_trim {xs : List α} {x : α} (h : (trim p xs).head? = some x) : p x = false := by
  have hd := List.head?_dropWhile_not p xs
  -- what is left of the rest is in front of it
  obtain ⟨cut, hc⟩ : trim p xs <+: xs.dropWhile p := dropEndWhile_isPrefix _
  rw [← hc] at hd
  cases ht : trim p xs with
  | nil =>
      rw [ht] at h
      cases h
  | cons y ys =>
      rw [ht] at h hd
      cases h
      exact hd

end Cut

namespace Text

theorem hasHead_ofList (c : Char) (cs : List Char) :
    hasHead (String.singleton c) (String.ofList cs) = (cs.head? == some c) := by
  cases cs with
  | nil => simp [hasHead]
  | cons d cs =>
      have hcomm : (c == d) = (d == c) := BEq.comm
      simp [hasHead, List.isPrefixOf, hcomm]

/-- Joined texts: the first, and the others with the separator in front of each. -/
theorem toList_join_cons (sep first : String) (others : List String) :
    (join sep (first :: others)).toList =
      first.toList ++ others.flatMap fun part => sep.toList ++ part.toList := by
  induction others generalizing first with
  | nil => simp [join]
  | cons second others ih =>
      have hj : join sep (first :: second :: others) = first ++ sep ++ join sep (second :: others) :=
        String.intercalate_cons_cons
      rw [hj, String.toList_append, String.toList_append, ih, List.flatMap_cons,
        List.append_assoc, List.append_assoc]

/-- Joined texts, as lists of characters. -/
theorem toList_join (sep : Char) (parts : List String) :
    (join (String.singleton sep) parts).toList = Cut.joinWith sep (parts.map String.toList) := by
  induction parts with
  | nil => rfl
  | cons first others ih =>
      cases others with
      | nil => simp [join, Cut.joinWith]
      | cons second others =>
          have hj : join (String.singleton sep) (first :: second :: others) =
              first ++ String.singleton sep ++ join (String.singleton sep) (second :: others) :=
            String.intercalate_cons_cons
          rw [hj, String.toList_append, String.toList_append, ih]
          simp [Cut.joinWith]

/-- Texts without the separator are found again when they are joined. -/
theorem split_join {sep : Char} {parts : List String} (hne : parts ≠ [])
    (h : ∀ part ∈ parts, sep ∉ part.toList) :
    split sep (join (String.singleton sep) parts) = parts := by
  have hfree : ∀ part ∈ parts.map String.toList, ∀ c ∈ part, (c == sep) = false := by
    intro part hp
    obtain ⟨text, ht, rfl⟩ := List.mem_map.1 hp
    exact Cut.beq_eq_false_of_not_mem (h text ht)
  rw [split, toList_join, Cut.cutAt_joinWith (by simp) (by simpa using hne) hfree, List.map_map]
  simp

/-- The parts of a text are texts without the separator, at least one, and the text is what
they are when they are joined. -/
theorem split_spec (sep : Char) (s : String) :
    split sep s ≠ [] ∧ (∀ part ∈ split sep s, sep ∉ part.toList) ∧
      join (String.singleton sep) (split sep s) = s := by
  refine ⟨?_, ?_, ?_⟩
  · rw [split, ne_eq, List.map_eq_nil_iff]
    exact Cut.cutAt_ne_nil _ _
  · intro part hp hs
    obtain ⟨cs, hcs, rfl⟩ := List.mem_map.1 hp
    rw [String.toList_ofList] at hs
    have hno := Cut.not_mem_of_mem_cutAt hcs hs
    simp at hno
  · rw [← String.toList_inj, toList_join, split, List.map_map]
    simp [Function.comp_def, Cut.joinWith_cutAt]

theorem splitOnce?_eq_some_iff {sep : Char} {s a b : String} :
    splitOnce? sep s = some (a, b) ↔
      s.toList = a.toList ++ sep :: b.toList ∧ sep ∉ a.toList := by
  constructor
  · intro h
    obtain ⟨⟨before, after⟩, hc, he⟩ := Option.map_eq_some_iff.1 h
    cases he
    obtain ⟨x, hx, hs, hb⟩ := Cut.atFirst?_eq_some hc
    cases beq_iff_eq.1 hx
    rw [String.toList_ofList, String.toList_ofList]
    refine ⟨hs, fun hm => ?_⟩
    have := hb sep hm
    simp at this
  · rintro ⟨hs, hn⟩
    rw [splitOnce?, hs, Cut.atFirst?_append (by simp) (Cut.beq_eq_false_of_not_mem hn)]
    simp only [Option.map_some, String.ofList_toList]

theorem splitOnce?_eq_none {sep : Char} {s : String} (h : sep ∉ s.toList) :
    splitOnce? sep s = none := by
  rw [splitOnce?, Option.map_eq_none_iff, Cut.atFirst?_eq_none_iff]
  exact Cut.beq_eq_false_of_not_mem h

/-- A text without the separator is its only part. -/
theorem split_of_not_mem {sep : Char} {s : String} (h : sep ∉ s.toList) : split sep s = [s] := by
  rw [split, Cut.cutAt_of_forall (Cut.beq_eq_false_of_not_mem h), List.map_singleton,
    String.ofList_toList]

/-- What stands in front of the first separator is the first part. -/
theorem split_append {sep : Char} {first s : String} {others : List Char}
    (hs : s.toList = first.toList ++ sep :: others) (h : sep ∉ first.toList) :
    split sep s = first :: split sep (String.ofList others) := by
  rw [split, hs, Cut.cutAt_append (by simp) (Cut.beq_eq_false_of_not_mem h), List.map_cons,
    String.ofList_toList, split, String.toList_ofList]

end Text

end Formwork
