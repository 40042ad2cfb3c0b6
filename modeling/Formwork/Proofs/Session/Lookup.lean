import Formwork.Proofs.Session.Attributes

/-! # Cookies in headers of any kind

A client sends its cookies in headers of pieces between semicolons: in any number of headers, in
any order, with blanks around the pieces, with quotation marks around values, and with pieces
between them that are no pairs at all. A look-up finds the first pair with just the name it is
asked for (`Cookie.find?_headerOf`), so where each name is sent once neither the order of the
pairs nor their division into headers counts.
-/

namespace Formwork

namespace Cookie

/-! ## Headers -/

/-- A name and a value that a client sends. The value, which may be put in quotation marks, holds
none itself. -/
structure Sent where
  name : String
  value : String
  isQuoted : Bool := false
  name_clear : IsClear name := by decide
  name_whole : '=' ∉ name.toList := by decide
  value_clear : IsClear value := by decide
  value_plain : '"' ∉ value.toList := by decide

/-- The value as it stands behind the sign of equality. -/
def Sent.written (s : Sent) : String := if s.isQuoted then "\"" ++ s.value ++ "\"" else s.value

/-- Nothing but blanks. -/
def IsBlank (s : String) : Prop := ∀ c ∈ s.toList, CharClass.isSpace c = true

instance (s : String) : Decidable (IsBlank s) :=
  List.decidableBAll (fun c => CharClass.isSpace c = true) s.toList

/-- A piece of a header: a pair with blanks around it, or a text without a sign of equality, which
may be empty. -/
inductive Piece where
  | pair (front : String) (sent : Sent) (back : String) (front_blank : IsBlank front)
      (back_blank : IsBlank back)
  | other (text : String) (no_sign : '=' ∉ text.toList) (whole : ';' ∉ text.toList)

namespace Piece

/-- The piece as it stands in the header. -/
def text : Piece → String
  | pair front sent back _ _ => front ++ pairText (sent.name, sent.written) ++ back
  | other text _ _ => text

/-- The name and the value that the piece sends, if it sends any. -/
def entry? : Piece → Option (String × String)
  | pair _ sent _ _ _ => some (sent.name, sent.value)
  | other .. => none

end Piece

/-- The header with the given pieces. -/
def headerOf (pieces : List Piece) : String := Text.join "; " (pieces.map Piece.text)

/-- The names and values that headers send, from header to header and from piece to piece. -/
def entriesOf (headers : List (List Piece)) : List (String × String) :=
  headers.flatten.filterMap Piece.entry?

/-! ## Pieces -/

theorem toList_quoted (s : String) :
    ("\"" ++ s ++ "\"").toList = ['"'] ++ s.toList ++ ['"'] := by
  simp

theorem Sent.trimBy_written (s : Sent) : Text.trimBy (· == '"') s.written = s.value := by
  have hvalue : Cut.trim (· == '"') s.value.toList = s.value.toList :=
    Cut.trim_of_forall (Cut.beq_eq_false_of_not_mem s.value_plain)
  rw [Text.trimBy, ← String.toList_inj, String.toList_ofList, written]
  split
  · rw [toList_quoted, Cut.trim_append_end (by simp), Cut.trim_append_of_forall (by simp), hvalue]
  · exact hvalue

theorem Sent.isClear (s : Sent) : IsClear (pairText (s.name, s.written)) := by
  apply isClear_pairText s.name_clear
  · rw [written]
    split
    · rw [toList_quoted]
      simp [s.value_clear.whole]
    · exact s.value_clear.whole
  · rw [written]
    split
    · rw [toList_quoted]
      intro c hc
      rw [List.getLast?_concat] at hc
      cases hc
      decide
    · exact s.value_clear.back

theorem ofPiece?_text (p : Piece) : ofPiece? p.text = p.entry? := by
  cases p with
  | pair front sent back hf hb =>
      have htrim : Text.trim (front ++ pairText (sent.name, sent.written) ++ back) =
          pairText (sent.name, sent.written) := by
        rw [Text.trim, Text.trimBy, String.toList_append, String.toList_append,
          Cut.trim_append_end hb, Cut.trim_append_of_forall hf, sent.isClear.trim_toList,
          String.ofList_toList]
      have hsplit : Text.splitOnce? '=' (pairText (sent.name, sent.written)) =
          some (sent.name, sent.written) :=
        Text.splitOnce?_eq_some_iff.2 ⟨toList_pairText _, sent.name_whole⟩
      rw [Piece.text, ofPiece?, htrim, hsplit, Option.map_some]
      simp only [sent.trimBy_written]
      rfl
  | other text hsign _ =>
      have hfree : '=' ∉ (Text.trim text).toList := by
        obtain ⟨front, back, htext, _, _⟩ := Cut.exists_append_trim CharClass.isSpace text.toList
        rw [htext] at hsign
        rw [Text.trim, Text.trimBy, String.toList_ofList]
        exact fun hm => hsign (by simp [hm])
      rw [Piece.text, ofPiece?, Text.splitOnce?_eq_none hfree]
      rfl

theorem not_semicolon_mem_text (p : Piece) : ';' ∉ p.text.toList := by
  cases p with
  | pair front sent back hf hb =>
      have hblank : ∀ s : String, IsBlank s → ';' ∉ s.toList := by
        intro s hs hm
        have := hs _ hm
        revert this
        decide
      rw [Piece.text, String.toList_append, String.toList_append]
      simp [hblank front hf, hblank back hb, sent.isClear.whole]
  | other text _ whole => exact whole

/-! ## Look-ups -/

theorem pairs_headerOf (headers : List (List Piece)) :
    pairs (headers.map headerOf) = entriesOf headers := by
  have hheader : ∀ pieces : List Piece,
      (Text.split ';' (headerOf pieces)).filterMap ofPiece? = pieces.filterMap Piece.entry? := by
    intro pieces
    cases pieces with
    | nil => rfl
    | cons first others =>
        have hfree : ∀ part ∈ others.map Piece.text, ';' ∉ part.toList := by
          intro part hp
          obtain ⟨p, _, rfl⟩ := List.mem_map.1 hp
          exact not_semicolon_mem_text p
        have hpiece : ∀ p : Piece, ofPiece? (behindBlank p.text) = p.entry? := by
          intro p
          rw [behindBlank, ofPiece?_blank, String.ofList_toList, ofPiece?_text]
        rw [headerOf, List.map_cons, split_join hfree _ (not_semicolon_mem_text first),
          List.filterMap_cons, ofPiece?_text, List.map_map, List.filterMap_map,
          List.filterMap_cons]
        simp only [Function.comp_def, hpiece]
  rw [pairs, entriesOf, List.flatMap_map, List.filterMap_flatten, List.flatMap_def]
  simp only [hheader]

/-- In whatever headers cookies are sent, a look-up finds the value of the first one that has
just this name, and nothing if none has; where each name is sent once, it finds the same in all
headers that send the same cookies. -/
theorem find?_headerOf (headers : List (List Piece)) (name : String) :
    (∀ value, find? (headers.map headerOf) name = some value ↔ ∃ before after,
        entriesOf headers = before ++ (name, value) :: after ∧ name ∉ before.map Prod.fst) ∧
      (find? (headers.map headerOf) name = none ↔ name ∉ (entriesOf headers).map Prod.fst) ∧
      (((entriesOf headers).map Prod.fst).Nodup →
        ∀ others : List (List Piece), (entriesOf others).Perm (entriesOf headers) →
          find? (others.map headerOf) name = find? (headers.map headerOf) name) := by
  simp only [find?_eq_lookup, pairs_headerOf]
  refine ⟨fun value => ?_, Pairs.lookup_eq_none_iff, fun distinct others perm => ?_⟩
  · simp only [List.lookup_eq_some_iff, ← List.lookup_eq_none_iff, Pairs.lookup_eq_none_iff]
  · exact Pairs.lookup_perm distinct perm name

/-- A quoted value with signs of equality in it, behind pieces that are no pairs, and the same
cookies sent in another way; a part of the name finds nothing. -/
theorem sid_found :
    let theme : Sent := { name := "theme", value := "dark" }
    let sid : Sent := { name := "sid", value := "abc==", isQuoted := true }
    let mixed : List (List Piece) :=
      [[.pair "" theme "" (by decide) (by decide), .other "flag" (by decide) (by decide),
        .other "" (by decide) (by decide), .pair " " sid "\t" (by decide) (by decide)], []]
    let plain : List (List Piece) :=
      [[.pair "" sid "" (by decide) (by decide)], [.pair "" theme "" (by decide) (by decide)]]
    mixed.map headerOf = ["theme=dark; flag; ;  sid=\"abc==\"\t", ""] ∧
      find? (mixed.map headerOf) "sid" = some "abc==" ∧
      find? (plain.map headerOf) "sid" = find? (mixed.map headerOf) "sid" ∧
      find? (mixed.map headerOf) "si" = none := by
  intro theme sid mixed plain
  have hmixed : entriesOf mixed = [("theme", "dark"), ("sid", "abc==")] := rfl
  refine ⟨by decide, ?_, ?_, ?_⟩
  · exact ((find?_headerOf mixed "sid").1 "abc==").2 ⟨[("theme", "dark")], [], hmixed, by decide⟩
  · have hperm : (entriesOf plain).Perm (entriesOf mixed) := List.Perm.swap _ _ _
    exact (find?_headerOf mixed "sid").2.2 (by rw [hmixed]; decide) plain hperm
  · exact (find?_headerOf mixed "si").2.1.2 (by rw [hmixed]; decide)

end Cookie

end Formwork
