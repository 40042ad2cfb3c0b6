import Formwork.Form.Multipart
import Formwork.Proofs.Form.Disposition

/-! # Media types as they are written

A type in lower case that holds no parameters is read as it stands. In general what was read is
the head of the text in lower case; the text itself has that head if no capital is in it
(`hasHead_iff_isSmall`).
-/

namespace Formwork

namespace MediaType

/-! ## Lower case -/

/-- A text without capitals. -/
def IsSmall (s : String) : Prop := ∀ c ∈ s.toList, ¬ ('A' ≤ c ∧ c ≤ 'Z')

instance (s : String) : Decidable (IsSmall s) := List.decidableBAll _ s.toList

theorem toList_lowerAscii (s : String) : (Text.lowerAscii s).toList = lower s.toList := by
  rw [lower, String.ofList_toList]

theorem lower_eq_map (cs : List Char) :
    lower cs = cs.map fun c => if 'A' ≤ c ∧ c ≤ 'Z' then Char.ofNat (c.toNat + 32) else c := by
  rw [lower, Text.lowerAscii, String.toList_map, String.toList_ofList]

theorem isSmall_iff_lower {s : String} : IsSmall s ↔ lower s.toList = s.toList := by
  have hall : lower s.toList = s.toList ↔ ∀ c ∈ s.toList,
      (if 'A' ≤ c ∧ c ≤ 'Z' then Char.ofNat (c.toNat + 32) else c) = c := by
    rw [lower_eq_map]
    conv_lhs => rhs; rw [← List.map_id s.toList]
    exact List.map_inj_left
  rw [hall]
  refine forall₂_congr fun c _ => ?_
  rw [ite_eq_right_iff]
  refine imp_congr_right fun hc => (iff_false_intro fun h => ?_).symm
  -- a capital is not the letter 32 places behind it
  have hle : c.toNat ≤ 90 := hc.2
  have hvalid : (c.toNat + 32).isValidChar := Or.inl (by omega)
  have hlater : (Char.ofNat (c.toNat + 32)).toNat = c.toNat + 32 := by
    rw [Char.ofNat, dif_pos hvalid]
    rfl
  rw [h] at hlater
  omega

/-! ## Types that are read as they stand -/

/-- A type and a subtype of token characters, without capitals. -/
structure IsPlain (type : String) : Prop where
  parts : ∃ top sub, type = top ++ "/" ++ sub ∧ top ≠ "" ∧ sub ≠ "" ∧
    Header.IsTokenText top ∧ Header.IsTokenText sub
  small : IsSmall type

theorem IsPlain.isPrintableText {type : String} (h : IsPlain type) :
    Header.IsPrintableText type := by
  obtain ⟨top, sub, rfl, _, _, htop, hsub⟩ := h.parts
  exact (htop.isPrintableText.append (by decide)).append hsub.isPrintableText

theorem IsPlain.not_blank {type : String} (h : IsPlain type) :
    ∀ b ∈ Utf8.encode type, Multipart.isBlank b = false := by
  obtain ⟨top, sub, rfl, _, _, htop, hsub⟩ := h.parts
  have htoken : ∀ {s : String}, Header.IsTokenText s →
      ∀ b ∈ Utf8.encode s, Multipart.isBlank b = false :=
    fun hs => hs.forall_mem_encode (by decide +kernel)
  intro b hb
  rw [Utf8.encode_append, Utf8.encode_append, List.mem_append, List.mem_append] at hb
  rcases hb with (hb | hb) | hb
  · exact htoken htop b hb
  · cases List.mem_singleton.1 hb
    decide
  · exact htoken hsub b hb

/-- A plain media type is written as it was read. -/
theorem IsPlain.parse? {type : String} (h : IsPlain type) :
    (MediaType.parse? type).map MediaType.text = some type := by
  obtain ⟨top, sub, htype, hne, _, htop, hsub⟩ := h.parts
  have hcs : type.toList = top.toList ++ '/' :: sub.toList := by
    rw [htype, String.toList_append, String.toList_append, List.append_assoc]
    rfl
  have hfirst : type.toList.takeWhile Header.isTokenChar = top.toList := by
    rw [hcs]
    apply Cut.takeWhile_append_of_ends htop
    intro c hc
    cases hc
    decide
  have hrest : type.toList.dropWhile Header.isTokenChar = '/' :: sub.toList := by
    rw [hcs, List.dropWhile_append_of_pos htop]
    rfl
  have hlower : lower (top.toList ++ '/' :: sub.toList) = type.toList := by
    rw [← hcs]
    exact isSmall_iff_lower.1 h.small
  have htopne : top.toList.isEmpty = false := by
    rw [List.isEmpty_eq_false_iff]
    exact fun e => hne (String.toList_eq_nil_iff.1 e)
  simp [MediaType.parse?, hfirst, hrest, htopne, List.takeWhile_eq_self_iff.2 hsub,
    List.dropWhile_eq_nil_iff.2 hsub, hlower]

/-! ## The head of a text -/

/-- The subtype that is read from the second part of a type: what stands in front of a suffix. -/
def subtypeOf (sub : List Char) : String :=
  match Cut.atLast? (· == '+') sub with
  | some (c :: before, _) => String.ofList (lower (c :: before))
  | _ => String.ofList (lower sub)

theorem subtypeOf_spec (sub : List Char) :
    ∃ front back, sub = front ++ back ∧ subtypeOf sub = String.ofList (lower front) := by
  unfold subtypeOf
  split
  · rename_i c before after hcut
    obtain ⟨⟨behind, front⟩, hfirst, he⟩ := Option.map_eq_some_iff.1 hcut
    obtain ⟨x, _, hsub, _⟩ := Cut.atFirst?_eq_some hfirst
    obtain ⟨hfront, rfl⟩ := Prod.mk.inj he
    refine ⟨c :: before, x :: behind.reverse, ?_, rfl⟩
    rw [← hfront, List.reverse_eq_iff.1 hsub]
    simp
  · exact ⟨sub, [], (List.append_nil sub).symm, rfl⟩

theorem names_of_parse? {s : String} {m : MediaType} (h : parse? s = some m) :
    ∃ rest, s.toList.dropWhile Header.isTokenChar = '/' :: rest ∧
      m.type = String.ofList (lower (s.toList.takeWhile Header.isTokenChar)) ∧
      m.subtype = subtypeOf (rest.takeWhile Header.isTokenChar) := by
  unfold MediaType.parse? at h
  dsimp only at h
  split at h
  · rename_i rest hrest
    refine ⟨rest, hrest, ?_⟩
    split at h
    · cases h
    split at h
    · cases h
      exact ⟨rfl, rfl⟩
    · split at h
      · cases h
      obtain ⟨parameters, _, h⟩ := Option.bind_eq_some_iff.1 h
      cases h
      exact ⟨rfl, rfl⟩
    · cases h
  · cases h

/-- A media type that was read begins with its type and subtype, but for capitals. -/
theorem toList_of_parse? {s : String} {m : MediaType} (h : parse? s = some m) :
    ∃ top front behind, s.toList = top ++ '/' :: (front ++ behind) ∧
      m.type = String.ofList (lower top) ∧ m.subtype = String.ofList (lower front) := by
  obtain ⟨rest, hrest, htype, hsubtype⟩ := names_of_parse? h
  obtain ⟨front, back, hsub, hfront⟩ := subtypeOf_spec (rest.takeWhile Header.isTokenChar)
  refine ⟨_, front, back ++ rest.dropWhile Header.isTokenChar, ?_, htype, hsubtype.trans hfront⟩
  rw [← List.append_assoc, ← hsub, List.takeWhile_append_dropWhile, ← hrest,
    List.takeWhile_append_dropWhile]

theorem hasHead_of_parse? {s : String} {m : MediaType} (h : parse? s = some m) :
    Text.hasHead (m.type ++ "/" ++ m.subtype) (Text.lowerAscii s) = true := by
  obtain ⟨top, front, behind, hs, htype, hsubtype⟩ := toList_of_parse? h
  rw [Text.hasHead, List.isPrefixOf_iff_prefix, htype, hsubtype, toList_lowerAscii, hs]
  simp [lower_eq_map]

/-- A text that begins with `head` in lower case begins with `head` itself exactly if there is no
capital as far as that. -/
theorem hasHead_iff_isSmall {head s : String}
    (h : Text.hasHead head (Text.lowerAscii s) = true) :
    Text.hasHead head s = true ↔ IsSmall (String.ofList (s.toList.take head.length)) := by
  rw [Text.hasHead, List.isPrefixOf_iff_prefix, List.prefix_iff_eq_take, toList_lowerAscii,
    lower_eq_map, ← List.map_take, ← lower_eq_map, String.length_toList] at h
  rw [Text.hasHead, List.isPrefixOf_iff_prefix, List.prefix_iff_eq_take, String.length_toList, h,
    isSmall_iff_lower, String.toList_ofList]

end MediaType

end Formwork
