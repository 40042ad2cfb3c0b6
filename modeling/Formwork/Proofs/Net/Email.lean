import Formwork.Net.Email
import Formwork.Proofs.Text.Cut

/-! # Texts that are one address

A text is taken for an address by the angle bracket at its end, the last opening one before
that, and a look for further brackets in front of it. That is a grammar: a bare address, or a
display text without angle brackets and behind it a bare address in a pair of them
(`isOneBy_eq_true_iff`). Where no bare address holds an angle bracket the reading is the only
one, and a text with a second pair of brackets, with a bracket that has no partner or with
more than blanks behind the closing one is refused (`isAddressBy_iff`). `isBare` takes one
kind of address that does hold a bracket: whatever stands in front of an internet address in
square brackets is passed over.
-/

namespace Formwork.Email

/-- No angle brackets. -/
def IsPlain (cs : List Char) : Prop := '<' ∉ cs ∧ '>' ∉ cs

instance (cs : List Char) : Decidable (IsPlain cs) := inferInstanceAs (Decidable (_ ∧ _))

/-- A display text without angle brackets, and behind it an address in a pair of them. -/
structure Wraps (cs display address : List Char) : Prop where
  text : cs = display ++ '<' :: (address ++ ['>'])
  plain : IsPlain display

/-- Angle brackets stand there as one pair at most, with blanks only behind it. -/
structure HasOnePair (cs : List Char) : Prop where
  single : cs.count '<' ≤ 1
  matched : cs.count '>' = cs.count '<'
  closed : ∀ front back, cs = front ++ '>' :: back →
    '<' ∈ front ∧ ∀ c ∈ back, CharClass.isSpace c = true

variable {bare : List Char → Bool} {cs body display address d a : List Char}

/-! ## The grammar -/

theorem Wraps.concat (h : Wraps cs display address) : cs = display ++ '<' :: address ++ ['>'] := by
  simp [h.text]

theorem Wraps.getLast? (h : Wraps cs display address) : cs.getLast? = some '>' := by
  rw [h.concat, List.getLast?_concat]

/-- What stands in front of the brackets and what stands in them is determined. -/
theorem Wraps.unique (h : Wraps cs display address) (h' : Wraps cs d a) :
    display = d ∧ address = a := by
  have hfirst : ∀ {display address}, Wraps cs display address →
      Cut.atFirst? (· == '<') cs = some (display, address ++ ['>']) := by
    intro display address hw
    rw [hw.text]
    exact Cut.atFirst?_append (by simp) (Cut.beq_eq_false_of_not_mem hw.plain.1)
  have he := (hfirst h).symm.trans (hfirst h')
  simp only [Option.some.injEq, Prod.mk.injEq, List.append_cancel_right_eq] at he
  exact he

theorem isOneBy_of_getLast? (h : cs.getLast? ≠ some '>') : isOneBy bare cs = bare cs := by
  unfold isOneBy
  split
  · rename_i body hr
    rw [List.getLast?_eq_head?_reverse, hr] at h
    exact absurd rfl h
  · rfl

/-- Before a closing bracket at the end, the last opening one counts. -/
theorem isOneBy_concat :
    isOneBy bare (body ++ ['>']) = true ↔ ∃ display address, body = display ++ '<' :: address ∧
      IsPlain display ∧ '<' ∉ address ∧ bare address = true := by
  have hplain : ∀ display : List Char,
      display.all (fun c => c != '<' && c != '>') = true ↔ IsPlain display := by
    intro display
    simp only [List.all_eq_true, Bool.and_eq_true, bne_iff_ne, IsPlain]
    constructor
    · intro h
      exact ⟨fun hm => (h _ hm).1 rfl, fun hm => (h _ hm).2 rfl⟩
    · intro h c hc
      exact ⟨fun e => h.1 (e ▸ hc), fun e => h.2 (e ▸ hc)⟩
  unfold isOneBy
  simp only [List.reverse_append, List.reverse_singleton, List.singleton_append,
    List.reverse_reverse]
  constructor
  · intro h
    split at h
    · rename_i display address hl
      obtain ⟨c, hc, hb, hfree⟩ := Cut.atLast?_eq_some hl
      cases beq_iff_eq.1 hc
      rw [Bool.and_eq_true, hplain] at h
      refine ⟨display, address, hb, h.1, fun hm => ?_, h.2⟩
      simpa using hfree '<' hm
    · cases h
  · rintro ⟨display, address, rfl, hp, hfree, hb⟩
    have hlast : Cut.atLast? (· == '<') (display ++ '<' :: address) = some (display, address) :=
      Cut.atLast?_append (by simp) (Cut.beq_eq_false_of_not_mem hfree)
    simp only [hlast, Bool.and_eq_true, hplain]
    exact ⟨hp, hb⟩

/-- One address is a bare one, or one in brackets behind a display text. -/
theorem isOneBy_eq_true_iff :
    isOneBy bare cs = true ↔ cs.getLast? ≠ some '>' ∧ bare cs = true ∨
      ∃ display address, Wraps cs display address ∧ '<' ∉ address ∧ bare address = true := by
  by_cases hl : cs.getLast? = some '>'
  · obtain ⟨body, rfl⟩ := List.getLast?_eq_some_iff.1 hl
    rw [isOneBy_concat]
    constructor
    · rintro ⟨display, address, rfl, hp, hfree, hb⟩
      exact .inr ⟨display, address, ⟨by simp, hp⟩, hfree, hb⟩
    · rintro (⟨hn, _⟩ | ⟨display, address, hw, hfree, hb⟩)
      · exact absurd hl hn
      · exact ⟨display, address, List.append_cancel_right hw.concat, hw.plain, hfree, hb⟩
  · rw [isOneBy_of_getLast? hl]
    constructor
    · exact fun hb => .inl ⟨hl, hb⟩
    · rintro (⟨_, hb⟩ | ⟨display, address, hw, _, _⟩)
      · exact hb
      · exact absurd hw.getLast? hl

example : isAddress "x@<[127.0.0.1]" = true := by decide

/-! ## Angle brackets -/

theorem IsPlain.count (h : IsPlain cs) : cs.count '<' = 0 ∧ cs.count '>' = 0 :=
  ⟨List.count_eq_zero.2 h.1, List.count_eq_zero.2 h.2⟩

theorem count_trim {c : Char} (hc : CharClass.isSpace c = false) (cs : List Char) :
    (Cut.trim CharClass.isSpace cs).count c = cs.count c := by
  refine Cut.countP_trim (fun x hx => ?_) cs
  rw [beq_eq_false_iff_ne]
  rintro rfl
  rw [hx] at hc
  cases hc

theorem hasOnePair_of_isPlain (h : IsPlain (Cut.trim CharClass.isSpace cs)) : HasOnePair cs := by
  obtain ⟨hopen, hclose⟩ := h.count
  rw [count_trim (by decide)] at hopen hclose
  refine ⟨by omega, by omega, ?_⟩
  rintro front back rfl
  simp at hclose

theorem hasOnePair_of_wraps (h : Wraps (Cut.trim CharClass.isSpace cs) display address)
    (ha : IsPlain address) : HasOnePair cs := by
  have hopen : cs.count '<' = 1 := by
    rw [← count_trim (by decide), h.text]
    simp [h.plain.count.1, ha.count.1]
  have hclose : cs.count '>' = 1 := by
    rw [← count_trim (by decide), h.text]
    simp [h.plain.count.2, ha.count.2]
  refine ⟨by omega, by omega, fun front back hcs => ?_⟩
  obtain ⟨left, right, htrim, hleft, hright⟩ := Cut.exists_append_trim CharClass.isSpace cs
  -- both are cuts of the text at its only closing bracket
  have hcut : cs = (left ++ display ++ '<' :: address) ++ '>' :: right := by
    rw [htrim, h.text]
    simp
  have hfirst : ∀ {front back : List Char}, cs = front ++ '>' :: back →
      Cut.atFirst? (· == '>') cs = some (front, back) := by
    intro front back hcs
    have hfront : front.count '>' = 0 := by
      rw [hcs, List.count_append, List.count_cons_self] at hclose
      omega
    rw [hcs]
    exact Cut.atFirst?_append (by simp)
      (Cut.beq_eq_false_of_not_mem (List.count_eq_zero.1 hfront))
  have he := (hfirst hcs).symm.trans (hfirst hcut)
  simp only [Option.some.injEq, Prod.mk.injEq] at he
  obtain ⟨rfl, rfl⟩ := he
  exact ⟨by simp, hright⟩

/-- Where no bare address holds an angle bracket, a text is one address if, blanks at its ends
aside, it is a bare one or a display text without angle brackets and a bare address in a pair of
them; these two are determined, and the text holds no other angle bracket. -/
theorem isAddressBy_iff (unbracketed : ∀ cs, bare cs = true → IsPlain cs) (s : String) :
    (isAddressBy bare s = true ↔
      (Text.trim s).toList.getLast? ≠ some '>' ∧ bare (Text.trim s).toList = true ∨
        ∃ display address, Wraps (Text.trim s).toList display address ∧ bare address = true) ∧
      (∀ display address d a, Wraps (Text.trim s).toList display address →
        Wraps (Text.trim s).toList d a → display = d ∧ address = a) ∧
      (isAddressBy bare s = true → HasOnePair s.toList) := by
  have htrim : (Text.trim s).toList = Cut.trim CharClass.isSpace s.toList := by
    rw [Text.trim, Text.trimBy, String.toList_ofList]
  rw [htrim]
  refine ⟨?_, fun _ _ _ _ => Wraps.unique, fun h => ?_⟩
  · rw [isAddressBy, isOneBy_eq_true_iff]
    constructor
    · rintro (hb | ⟨display, address, hw, _, hb⟩)
      · exact .inl hb
      · exact .inr ⟨display, address, hw, hb⟩
    · rintro (hb | ⟨display, address, hw, hb⟩)
      · exact .inl hb
      · exact .inr ⟨display, address, hw, (unbracketed address hb).1, hb⟩
  · rcases isOneBy_eq_true_iff.1 h with ⟨_, hb⟩ | ⟨display, address, hw, _, hb⟩
    · exact hasOnePair_of_isPlain (unbracketed _ hb)
    · exact hasOnePair_of_wraps hw (unbracketed address hb)

/-- A bare address without angle brackets. -/
def isPlainBare (cs : List Char) : Bool := isBare cs && decide (IsPlain cs)

/-- One bracketed address behind a display text is taken, two are not. -/
theorem isAddressBy_ana :
    (∀ cs, isPlainBare cs = true → IsPlain cs) ∧
      isAddressBy isPlainBare "Ana Lopez <ana@example.com> " = true ∧
      isAddressBy isPlainBare "Ana <bea> <ana@example.com>" = false := by
  have hplain : ∀ cs, isPlainBare cs = true → IsPlain cs := by
    intro cs h
    rw [isPlainBare, Bool.and_eq_true] at h
    exact of_decide_eq_true h.2
  refine ⟨hplain, ?_, ?_⟩
  · have hw : Wraps (Text.trim "Ana Lopez <ana@example.com> ").toList
        "Ana Lopez ".toList "ana@example.com".toList := ⟨by decide, by decide⟩
    exact ((isAddressBy_iff hplain _).1).2 (.inr ⟨_, _, hw, by decide⟩)
  · rw [Bool.eq_false_iff]
    intro h
    have hone := ((isAddressBy_iff hplain _).2.2 h).single
    revert hone
    decide

end Formwork.Email
