import Formwork.Form.Sniff
import Formwork.Proofs.Sequence

/-! # Contents of any length

A content comes from outside, may be of any length, and says the length of its own first box.
`Sniff.inspect` finds the media type as `Sniff.mediaType` does, but takes every octet and every
stretch of octets by its place and faults where there is none. It never faults
(`Sniff.inspect_eq_ok`), and the types of unknown contents are left for contents that no signature
decides.
-/

namespace Formwork

namespace Sniff

variable {octets window head kind : Bytes} {start stop place : Nat}

/-! ## Reading by places -/

/-- What stops an inspection. -/
inductive Fault where
  /-- Octets from `start` up to `stop` were asked for, and there are `length`. -/
  | outside (start stop length : Nat)
  /-- A loop was not over after its rounds. -/
  | endless
deriving DecidableEq

/-- The octets from `start` up to `stop`. -/
def slice (octets : Bytes) (start stop : Nat) : Except Fault Bytes :=
  if start ≤ stop ∧ stop ≤ octets.length then .ok ((octets.drop start).take (stop - start))
  else .error (.outside start stop octets.length)

/-- The octet at a place. -/
def octetAt (octets : Bytes) (place : Nat) : Except Fault UInt8 :=
  match octets[place]? with
  | some b => .ok b
  | none => .error (.outside place (place + 1) octets.length)

/-- What stands behind the blanks in front. -/
def sliceMarkup (window : Bytes) : Except Fault Bytes :=
  slice window (window.findIdx fun b => !isBlank b) window.length

/-- Whether octets begin with a text in any case. -/
def startsIgnoringCase (octets head : Bytes) : Except Fault Bool :=
  if head.length ≤ octets.length then do
    let front ← slice octets 0 head.length
    return front.map Bytes.toLower == head.map Bytes.toLower
  else return false

/-- Whether octets begin with a tag and a blank or `>` behind it; there may be no octet behind
it. -/
def startsWithTag (octets tag : Bytes) : Except Fault Bool := do
  if ← startsIgnoringCase octets tag then
    return match octets[tag.length]? with
      | some b => b = 0x20 || b = 0x3E
      | none => false
  else return false

/-- Whether a window is a container of a kind. -/
def holdsKind (window head kind : Bytes) : Except Fault Bool :=
  if head.isPrefixOf window && decide (8 + kind.length ≤ window.length) then do
    let found ← slice window 8 (8 + kind.length)
    return found == kind
  else return false

/-- Looks for a brand in a box, four octets further in each round. The brand is taken out of the
box alone, and the minor version at 12 is passed over. -/
def findBrand (box : Bytes) : Nat → Nat → Except Fault Bool
  | 0, _ => .error .endless
  | rounds + 1, place =>
    if box.length ≤ place then return false
    else if place = 12 then findBrand box rounds (place + 4)
    else do
      let brand ← slice box place (place + 3)
      if brand = Utf8.encode "mp4" then return true
      else findBrand box rounds (place + 4)

/-- Whether a window begins with a whole file type box with an MP4 brand. -/
def inspectBox (rounds : Nat) (window : Bytes) : Except Fault Bool :=
  if window.length < 12 then return false
  else do
    let b0 ← octetAt window 0
    let b1 ← octetAt window 1
    let b2 ← octetAt window 2
    let b3 ← octetAt window 3
    let boxSize := bigEndian [b0, b1, b2, b3]
    if window.length < boxSize || boxSize % 4 != 0 then return false
    else
      let type ← slice window 4 8
      if type = Utf8.encode "ftyp" then
        let box ← slice window 0 boxSize
        findBrand box rounds 8
      else return false

/-- The media type of a content, found with at most so many rounds over a box. -/
def inspect (rounds : Nat) (content : Bytes) : Except Fault String := do
  let window ← slice content 0 (min content.length windowSize)
  let markup ← sliceMarkup window
  if ← pageTags.anyM (startsWithTag markup) then return "text/html; charset=utf-8"
  else if ← startsIgnoringCase markup (Utf8.encode "<?xml") then return "text/xml; charset=utf-8"
  else match signatures.find? fun (head, _) => head.isPrefixOf window with
    | some (_, type) => return type
    | none =>
      match ← containers.findM? fun (head, kind, _) => holdsKind window head kind with
      | some (_, _, type) => return type
      | none =>
        if ← inspectBox rounds window then return "video/mp4"
        else if window.any isBinary then return binaryType
        else return textType

/-! ## No place is outside -/

theorem slice_eq_ok (hle : start ≤ stop) (hstop : stop ≤ octets.length) :
    slice octets start stop = .ok ((octets.drop start).take (stop - start)) :=
  if_pos ⟨hle, hstop⟩

theorem octetAt_eq_ok (h : place < octets.length) : octetAt octets place = .ok octets[place] := by
  rw [octetAt, List.getElem?_eq_getElem h]

theorem sliceMarkup_eq_ok (window : Bytes) :
    sliceMarkup window = .ok (window.dropWhile isBlank) := by
  rw [sliceMarkup, slice_eq_ok List.findIdx_le_length (Nat.le_refl _),
    List.dropWhile_eq_drop_findIdx_not, ← List.length_drop, List.take_length]

theorem take_beq (head octets : Bytes) :
    (octets.take head.length == head) = head.isPrefixOf octets := by
  rw [Bool.eq_iff_iff, beq_iff_eq, List.isPrefixOf_iff_prefix, List.prefix_iff_eq_take, eq_comm]

theorem isPrefixOf_eq_false (h : octets.length < head.length) : head.isPrefixOf octets = false := by
  rw [← Bool.not_eq_true, List.isPrefixOf_iff_prefix]
  intro hpre
  have := hpre.length_le
  omega

theorem startsIgnoringCase_eq_ok (octets head : Bytes) :
    startsIgnoringCase octets head = .ok (beginsWith (head.map Bytes.toLower) octets) := by
  rw [startsIgnoringCase, beginsWith]
  split
  · rename_i hle
    rw [slice_eq_ok (Nat.zero_le _) hle, ← take_beq, ← List.map_take, List.length_map]
    rfl
  · rename_i hlt
    rw [isPrefixOf_eq_false (by rw [List.length_map, List.length_map]; omega)]
    rfl

theorem startsWithTag_eq_ok (octets tag : Bytes) :
    startsWithTag octets tag = .ok (isPageTag octets (tag.map Bytes.toLower)) := by
  rw [startsWithTag, startsIgnoringCase_eq_ok, isPageTag, List.length_map]
  show (if beginsWith _ octets = true then _ else _) = _
  cases beginsWith (tag.map Bytes.toLower) octets with
  | false => rfl
  | true =>
      rw [if_pos rfl, Bool.true_and, ← List.head?_drop]
      cases octets.drop tag.length <;> rfl

theorem holdsKind_eq_ok (hk : kind ≠ []) (window head : Bytes) :
    holdsKind window head kind =
      .ok (head.isPrefixOf window && kind.isPrefixOf (window.drop 8)) := by
  have hpos : 0 < kind.length := List.length_pos_iff.2 hk
  rw [holdsKind]
  cases head.isPrefixOf window with
  | false => rfl
  | true =>
      rw [Bool.true_and, Bool.true_and]
      split
      · rename_i hle
        rw [decide_eq_true_eq] at hle
        rw [slice_eq_ok (Nat.le_add_right _ _) hle, Nat.add_sub_cancel_left, ← take_beq]
        rfl
      · rename_i hlt
        rw [decide_eq_true_eq] at hlt
        rw [isPrefixOf_eq_false (by rw [List.length_drop]; omega)]
        rfl

/-! ## The loop over a box -/

theorem map_range_succ (place count : Nat) :
    (List.range (count + 1)).map (fun i => place + 4 * i) =
      place :: (List.range count).map fun i => place + 4 + 4 * i := by
  rw [List.range_succ_eq_map, List.map_cons, List.map_map]
  congr 1
  apply List.map_congr_left
  intro i _
  show place + 4 * (i + 1) = _
  omega

/-- Each round leaves one brand less, and each brand that begins in a box ends in it, as its size
is a multiple of four. -/
theorem findBrand_eq_ok {box : Bytes} {place count rounds : Nat}
    (hbox : box.length = place + 4 * count) (hrounds : count < rounds) :
    findBrand box rounds place =
      .ok ((((List.range count).map fun i => place + 4 * i).filter (· != 12)).any fun offset =>
        (box.drop offset).take 3 = Utf8.encode "mp4") := by
  induction count generalizing place rounds with
  | zero =>
      obtain ⟨rounds, rfl⟩ := Nat.exists_eq_succ_of_ne_zero (show rounds ≠ 0 by omega)
      rw [findBrand, if_pos (by omega)]
      rfl
  | succ count ih =>
      obtain ⟨rounds, rfl⟩ := Nat.exists_eq_succ_of_ne_zero (show rounds ≠ 0 by omega)
      have hlater : box.length = place + 4 + 4 * count := by omega
      have hrest := ih hlater (show count < rounds by omega)
      rw [findBrand, if_neg (by omega), map_range_succ, hrest]
      by_cases h12 : place = 12
      · rw [if_pos h12, List.filter_cons_of_neg (by simp [h12])]
      · rw [if_neg h12, List.filter_cons_of_pos (by simp [h12]), List.any_cons,
          slice_eq_ok (by omega) (by omega), Nat.add_sub_cancel_left]
        show (if _ then _ else _) = _
        split
        · rename_i hbrand
          rw [decide_eq_true hbrand]
          rfl
        · rename_i hbrand
          rw [decide_eq_false hbrand, Bool.false_or]

theorem take_four (h : 3 < window.length) :
    window.take 4 = [window[0], window[1], window[2], window[3]] := by
  match window, h with
  | _ :: _ :: _ :: _ :: _, _ => rfl

/-- The loop over a box ends within as many rounds as fours fit into the octets around it. -/
theorem findBrand_take_eq_ok {boxSize rounds : Nat} (hlong : 12 ≤ window.length)
    (hrounds : window.length / 4 ≤ rounds) (hwhole : boxSize ≤ window.length)
    (hfours : boxSize % 4 = 0) :
    findBrand (window.take boxSize) rounds 8 =
      .ok ((brandOffsets boxSize).any fun offset =>
        (window.drop offset).take 3 = Utf8.encode "mp4") := by
  have hlen : (window.take boxSize).length = boxSize := List.length_take_of_le hwhole
  by_cases hsmall : boxSize ≤ 8
  · -- a box without room for brands
    obtain ⟨rounds, rfl⟩ := Nat.exists_eq_succ_of_ne_zero (show rounds ≠ 0 by omega)
    have hnone : (boxSize - 8 + 3) / 4 = 0 := by omega
    rw [findBrand, if_pos (by omega), brandOffsets, hnone]
    rfl
  · have hcount : (boxSize - 8 + 3) / 4 = (boxSize - 8) / 4 := by omega
    have hroom : (window.take boxSize).length = 8 + 4 * ((boxSize - 8) / 4) := by omega
    rw [findBrand_eq_ok hroom (by omega), brandOffsets, hcount]
    congr 1
    rw [Bool.eq_iff_iff, List.any_eq_true, List.any_eq_true]
    refine exists_congr fun offset => and_congr_right fun hoffset => ?_
    obtain ⟨hmem, _⟩ := List.mem_filter.1 hoffset
    obtain ⟨i, hi, rfl⟩ := List.mem_map.1 hmem
    rw [List.mem_range] at hi
    rw [List.drop_take, List.take_take, Nat.min_eq_left (by omega)]

/-- A box is looked through only where the octets hold the whole of it. -/
theorem inspectBox_eq_ok {rounds : Nat} (hrounds : window.length / 4 ≤ rounds) :
    inspectBox rounds window = .ok (isMp4 window) := by
  by_cases hlong : 12 ≤ window.length
  · rw [inspectBox, if_neg (by omega), isMp4, take_four (by omega), decide_eq_true hlong,
      octetAt_eq_ok (by omega), octetAt_eq_ok (by omega), octetAt_eq_ok (by omega),
      octetAt_eq_ok (by omega)]
    simp only [bind, Except.bind]
    generalize bigEndian [window[0], window[1], window[2], window[3]] = boxSize
    by_cases hsize : boxSize ≤ window.length ∧ boxSize % 4 = 0
    · obtain ⟨hwhole, hfours⟩ := hsize
      rw [if_neg (by simp [hwhole, hfours]), decide_eq_true hwhole, decide_eq_true hfours,
        slice_eq_ok (by omega) (by omega)]
      dsimp only
      by_cases htype : (window.drop 4).take 4 = Utf8.encode "ftyp"
      · rw [if_pos htype, decide_eq_true htype, slice_eq_ok (Nat.zero_le _) hwhole]
        exact findBrand_take_eq_ok hlong hrounds hwhole hfours
      · rw [if_neg htype, decide_eq_false htype]
        rfl
    · have hguard : (decide (boxSize ≤ window.length) && decide (boxSize % 4 = 0)) = false := by
        rw [← Bool.decide_and, decide_eq_false hsize]
      rw [if_pos (by simp; omega), Bool.true_and, hguard]
      rfl
  · rw [inspectBox, if_pos (by omega), isMp4, decide_eq_false hlong]
    rfl

/-! ## Signatures before octets -/

/-- Something in a window says what it is. -/
inductive IsSigned (window : Bytes) : Prop
  | page (h : pageTags.any (isPageTag (window.dropWhile isBlank)) = true)
  | document (h : beginsWith (Utf8.encode "<?xml") (window.dropWhile isBlank) = true)
  | signature (h : ∃ entry ∈ signatures, entry.1 <+: window)
  | container (h : ∃ entry ∈ containers, entry.1 <+: window ∧ entry.2.1 <+: window.drop 8)
  | box (h : isMp4 window = true)

/-- The octets in front of a text that says that it is UTF-8. -/
def byteOrderMark : Bytes := [0xEF, 0xBB, 0xBF]

theorem find?_signatures_eq_none_iff :
    signatures.find? (fun (head, _) => head.isPrefixOf window) = none ↔
      ¬ ∃ entry ∈ signatures, entry.1 <+: window := by
  rw [List.find?_eq_none, not_exists]
  refine forall_congr' fun entry => ?_
  rw [not_and, ← List.isPrefixOf_iff_prefix]

theorem find?_containers_eq_none_iff :
    containers.find? (fun (head, kind, _) =>
        head.isPrefixOf window && kind.isPrefixOf (window.drop 8)) = none ↔
      ¬ ∃ entry ∈ containers, entry.1 <+: window ∧ entry.2.1 <+: window.drop 8 := by
  rw [List.find?_eq_none, not_exists]
  refine forall_congr' fun entry => ?_
  rw [not_and, ← List.isPrefixOf_iff_prefix, ← List.isPrefixOf_iff_prefix, Bool.and_eq_true]

theorem typeOfWindow_of_not_isSigned (h : ¬ IsSigned window) :
    typeOfWindow window = if window.any isBinary then binaryType else textType := by
  have hsignature := find?_signatures_eq_none_iff.2 fun hs => h (.signature hs)
  have hcontainer := find?_containers_eq_none_iff.2 fun hc => h (.container hc)
  rw [typeOfWindow, if_neg fun hp => h (.page hp), if_neg fun hd => h (.document hd), hsignature]
  simp only [hcontainer]
  rw [if_neg fun hb => h (.box hb)]

/-- No signature says that a content is unknown, and only the byte order mark says that it is a
text in UTF-8. -/
theorem typeOfWindow_of_isSigned (h : IsSigned window) :
    typeOfWindow window ≠ binaryType ∧
      (typeOfWindow window = textType → byteOrderMark <+: window) := by
  rw [typeOfWindow]
  split
  · exact ⟨by decide, fun he => absurd he (by decide)⟩
  rename_i hpage
  split
  · exact ⟨by decide, fun he => absurd he (by decide)⟩
  rename_i hdocument
  split
  · rename_i head type hfound
    have htypes : ∀ entry ∈ signatures, entry.2 ≠ binaryType ∧
        (entry.2 = textType → entry.1 = byteOrderMark) := by decide +kernel
    obtain ⟨hbinary, htext⟩ := htypes _ (List.mem_of_find?_eq_some hfound)
    have hpre : head.isPrefixOf window = true :=
      List.find?_some (p := fun entry : Bytes × String => entry.1.isPrefixOf window) hfound
    exact ⟨hbinary, fun he => htext he ▸ List.isPrefixOf_iff_prefix.1 hpre⟩
  rename_i hsignature
  split
  · rename_i hfound
    have htypes : ∀ entry ∈ containers, entry.2.2 ≠ binaryType ∧ entry.2.2 ≠ textType := by
      decide +kernel
    obtain ⟨hbinary, htext⟩ := htypes _ (List.mem_of_find?_eq_some hfound)
    exact ⟨hbinary, fun he => absurd he htext⟩
  rename_i hcontainer
  split
  · exact ⟨by decide, fun he => absurd he (by decide)⟩
  rename_i hbox
  exfalso
  cases h with
  | page h => exact hpage h
  | document h => exact hdocument h
  | signature h => exact find?_signatures_eq_none_iff.1 hsignature h
  | container h => exact find?_containers_eq_none_iff.1 hcontainer h
  | box h => exact hbox h

theorem typeOfWindow_of_byteOrderMark (h : byteOrderMark <+: window) :
    typeOfWindow window = textType := by
  obtain ⟨rest, rfl⟩ := h
  rfl

theorem typeOfWindow_eq_binaryType_iff :
    typeOfWindow window = binaryType ↔ ¬ IsSigned window ∧ ∃ b ∈ window, isBinary b = true := by
  constructor
  · intro h
    have hunsigned : ¬ IsSigned window := fun hs => (typeOfWindow_of_isSigned hs).1 h
    rw [typeOfWindow_of_not_isSigned hunsigned] at h
    split at h
    · rename_i hany
      exact ⟨hunsigned, List.any_eq_true.1 hany⟩
    · exact absurd h (by decide)
  · rintro ⟨hunsigned, hany⟩
    rw [typeOfWindow_of_not_isSigned hunsigned, if_pos (List.any_eq_true.2 hany)]

theorem typeOfWindow_eq_textType_iff :
    typeOfWindow window = textType ↔
      byteOrderMark <+: window ∨ ¬ IsSigned window ∧ ∀ b ∈ window, isBinary b = false := by
  constructor
  · intro h
    by_cases hsigned : IsSigned window
    · exact .inl ((typeOfWindow_of_isSigned hsigned).2 h)
    · rw [typeOfWindow_of_not_isSigned hsigned] at h
      split at h
      · exact absurd h (by decide)
      · rename_i hany
        exact .inr ⟨hsigned, by simpa using hany⟩
  · rintro (hmark | ⟨hunsigned, hall⟩)
    · exact typeOfWindow_of_byteOrderMark hmark
    · rw [typeOfWindow_of_not_isSigned hunsigned, if_neg (by simpa using hall)]

/-! ## Whole contents -/

theorem inspect_eq_mediaType {rounds : Nat} (hrounds : windowSize / 4 ≤ rounds) (content : Bytes) :
    inspect rounds content = .ok (mediaType content) := by
  have hslice : slice content 0 (min content.length windowSize) =
      .ok (content.take windowSize) := by
    rw [slice_eq_ok (Nat.zero_le _) (Nat.min_le_left _ _), List.drop_zero, Nat.sub_zero,
      Nat.min_comm, ← List.take_take, List.take_length]
  have hwindow : (content.take windowSize).length ≤ windowSize := List.length_take_le _ _
  rw [inspect, hslice, mediaType, typeOfWindow]
  generalize content.take windowSize = window at hwindow ⊢
  have hpages : pageTags.anyM (startsWithTag (window.dropWhile isBlank)) =
      .ok (pageTags.any (isPageTag (window.dropWhile isBlank))) := by
    have hlower : ∀ tag ∈ pageTags, tag.map Bytes.toLower = tag := by decide +kernel
    refine anyM_eq_ok fun tag htag => ?_
    rw [startsWithTag_eq_ok, hlower tag htag]
  have hcontainers : containers.findM? (fun (head, kind, _) => holdsKind window head kind) =
      .ok (containers.find? fun (head, kind, _) =>
        head.isPrefixOf window && kind.isPrefixOf (window.drop 8)) := by
    have hkinds : ∀ entry ∈ containers, entry.2.1 ≠ [] := by decide +kernel
    exact findM?_eq_ok fun entry he => holdsKind_eq_ok (hkinds entry he) _ _
  have hdocument : startsIgnoringCase (window.dropWhile isBlank) (Utf8.encode "<?xml") =
      .ok (beginsWith (Utf8.encode "<?xml") (window.dropWhile isBlank)) :=
    startsIgnoringCase_eq_ok _ _
  have hbox : inspectBox rounds window = .ok (isMp4 window) :=
    inspectBox_eq_ok (Nat.le_trans (Nat.div_le_div_right hwindow) hrounds)
  simp only [bind, Except.bind, sliceMarkup_eq_ok, hpages, hdocument, hcontainers, hbox]
  split
  · rfl
  split
  · rfl
  cases signatures.find? fun x => x.1.isPrefixOf window with
  | some entry => rfl
  | none =>
      cases containers.find? fun x =>
          x.1.isPrefixOf window && x.2.1.isPrefixOf (window.drop 8) with
      | some entry => rfl
      | none =>
          dsimp only
          split
          · rfl
          split <;> rfl

/-- A content of any length, whatever size it gives its first box, is inspected within a fixed
number of rounds and without asking for a place outside of it, and so are any octets by the single
readers. Its type is that of unknown binary contents or of unknown texts only where nothing in the
window is a signature, by whether a binary control octet is there; but a byte order mark says by
itself that the content is a text. -/
theorem inspect_eq_ok (content : Bytes) (more : Nat) :
    inspect (windowSize / 4 + more) content = .ok (mediaType content) ∧
      (∀ text, startsIgnoringCase content text =
          .ok (beginsWith (text.map Bytes.toLower) content) ∧
        startsWithTag content text = .ok (isPageTag content (text.map Bytes.toLower))) ∧
      inspectBox (content.length / 4 + more) content = .ok (isMp4 content) ∧
      (mediaType content = binaryType ↔ ¬ IsSigned (content.take windowSize) ∧
        ∃ b ∈ content.take windowSize, isBinary b = true) ∧
      (mediaType content = textType ↔ byteOrderMark <+: content ∨
        ¬ IsSigned (content.take windowSize) ∧
          ∀ b ∈ content.take windowSize, isBinary b = false) := by
  have hmark : byteOrderMark <+: content ↔ byteOrderMark <+: content.take windowSize := by
    rw [List.prefix_take_iff]
    exact (and_iff_left (by decide)).symm
  rw [hmark, mediaType]
  exact ⟨inspect_eq_mediaType (Nat.le_add_right _ _) content,
    fun text => ⟨startsIgnoringCase_eq_ok content text, startsWithTag_eq_ok content text⟩,
    inspectBox_eq_ok (Nat.le_add_right _ _), typeOfWindow_eq_binaryType_iff,
    typeOfWindow_eq_textType_iff⟩

/-- A box that says it is longer than any content. -/
example : inspect 128 ([0x7F, 0xFF, 0xFF, 0xFC] ++ Utf8.encode "ftypmp42") = .ok textType := by
  decide +kernel

end Sniff

end Formwork
