import Formwork.Http.Client
import Formwork.Proofs.Form.MediaType
import Formwork.Proofs.Form.Pairs
import Formwork.Proofs.Http.Uri

/-! # Multipart bodies that were written

A body that a writer made of fields and files is read back: values and files by key, in the
order in which they were written, every octet of them (`MultipartWriter.read_write`). The
boundary finds the end of a content because it cannot begin in the content and end behind it;
the header of a part is read line by line.
-/

namespace Formwork

namespace Multipart

/-! ## Headers -/

theorem headerLines_flatMap {lines : List Bytes} (h : ∀ line ∈ lines, line ≠ [] ∧ 0x0A ∉ line) :
    headerLines (lines.flatMap (· ++ lineEnd)) = lines := by
  induction lines with
  | nil => rfl
  | cons line lines ih =>
      rw [List.forall_mem_cons] at h
      have hcut : Cut.cutAt (· == 0x0A) ((line :: lines).flatMap (· ++ lineEnd)) =
          (line ++ [0x0D]) :: Cut.cutAt (· == 0x0A) (lines.flatMap (· ++ lineEnd)) := by
        have hnot : 0x0A ∉ line ++ [0x0D] := by
          rw [List.mem_append, not_or]
          exact ⟨h.1.2, by decide⟩
        have hfree : ∀ b ∈ line ++ [0x0D], (b == 0x0A) = false := Cut.beq_eq_false_of_not_mem hnot
        have hline : (line :: lines).flatMap (· ++ lineEnd) =
            (line ++ [0x0D]) ++ 0x0A :: lines.flatMap (· ++ lineEnd) := by
          simp [lineEnd]
        rw [hline, Cut.cutAt_append (by decide) hfree]
      have hkeep : (!line.isEmpty) = true := by simpa using h.1.1
      rw [headerLines, hcut, List.map_cons, if_pos (by simp), List.dropLast_concat,
        List.takeWhile_cons_of_pos (p := fun l : Bytes => !l.isEmpty) hkeep]
      exact congrArg (line :: ·) (ih h.2)

theorem headerOf?_append {name : String} {value : Bytes} (hn : Header.IsTokenText name)
    (hne : name ≠ "") (hv : Header.isValue value = true)
    (hfirst : ∀ b ∈ value.head?, isBlank b = false)
    (hlast : ∀ b ∈ value.getLast?, isBlank b = false) :
    headerOf? (Utf8.encode name ++ 0x3A :: 0x20 :: value) =
      some (Text.lowerAscii name, value) := by
  have hcolon : ∀ b ∈ Utf8.encode name, (b == 0x3A) = false :=
    hn.forall_mem_encode (by decide +kernel)
  have htoken : Header.isToken name = true := by
    rw [Header.isToken, List.all_eq_true.2 hn]
    simpa using hne
  have htext : String.ofList ((Utf8.encode name).map fun b => Char.ofNat b.toNat) = name := by
    rw [Header.map_encode hn.isPrintableText, String.ofList_toList]
  have htrim : Cut.trim isBlank (0x20 :: value) = value := by
    rw [Cut.trim_cons (by decide), Cut.trim_of_ends hfirst hlast]
  simp only [headerOf?, Cut.atFirst?_append (x := 0x3A) (by decide) hcolon, htext, htrim, htoken,
    hv, Bool.and_self, if_true]

/-- The end of the headers stands behind the last line. -/
theorem atMark?_lines {line : Bytes} {lines : List Bytes}
    (h : ∀ l ∈ line :: lines, l ≠ [] ∧ 0x0D ∉ l) (rest : Bytes) :
    ∃ block, block ++ lineEnd = (line :: lines).flatMap (· ++ lineEnd) ∧
      Cut.atMark? (lineEnd ++ lineEnd)
        ((line :: lines).flatMap (· ++ lineEnd) ++ (lineEnd ++ rest)) = some (block, rest) := by
  induction lines generalizing line with
  | nil =>
      rw [List.forall_mem_singleton] at h
      refine ⟨line, by simp, ?_⟩
      have hmark : Cut.atMark? (lineEnd ++ lineEnd) (lineEnd ++ lineEnd ++ rest) =
          some ([], rest) := Cut.atMark?_self (by decide) rest
      have hfound : Cut.atMark? (lineEnd ++ lineEnd) (line ++ (lineEnd ++ lineEnd ++ rest)) =
          some (line ++ [], rest) := Cut.atMark?_append h.2 hmark
      rw [List.append_nil] at hfound
      simpa using hfound
  | cons second others ih =>
      rw [List.forall_mem_cons] at h
      obtain ⟨block, hblock, hfound⟩ := ih h.2
      refine ⟨line ++ (lineEnd ++ block), by simp [← hblock], ?_⟩
      have hreach : Cut.atMark? (lineEnd ++ lineEnd)
          (lineEnd ++ ((second :: others).flatMap (· ++ lineEnd) ++ (lineEnd ++ rest))) =
            some (lineEnd ++ block, rest) := by
        -- between two lines no mark begins, as the second is not empty
        obtain ⟨hne, hreturn⟩ := h.2 second List.mem_cons_self
        cases second with
        | nil => exact absurd rfl hne
        | cons b second =>
            have hb : 0x0D ≠ b := by
              rintro rfl
              exact hreturn List.mem_cons_self
            have hfirst : ∀ xs, ¬ lineEnd ++ lineEnd <+: 0x0D :: 0x0A :: b :: xs := by
              intro xs
              simp [lineEnd, hb]
            have hsecond : ∀ xs, ¬ lineEnd ++ lineEnd <+: 0x0A :: b :: xs := by
              intro xs
              simp [lineEnd]
            rw [List.flatMap_cons, List.append_assoc, List.append_assoc,
              List.cons_append] at hfound ⊢
            show Cut.atMark? _ (0x0D :: 0x0A :: b :: _) = _
            rw [Cut.atMark?_cons (hfirst _), Cut.atMark?_cons (hsecond _), hfound]
            rfl
      have hall : Cut.atMark? (lineEnd ++ lineEnd) (line ++ (lineEnd ++
          ((second :: others).flatMap (· ++ lineEnd) ++ (lineEnd ++ rest)))) =
            some (line ++ (lineEnd ++ block), rest) := Cut.atMark?_append h.1.2 hreach
      rw [List.flatMap_cons, List.append_assoc, List.append_assoc]
      exact hall

end Multipart

/-! ## What is written -/

namespace MultipartWriter

open Multipart (lineEnd hyphens)

/-- A call to a writer. -/
inductive Call where
  | field (name value : String)
  | file (name filename contentType : String) (content : Bytes)

/-- Follows a call. -/
def call (w : MultipartWriter) : Call → MultipartWriter
  | .field name value => w.field name value
  | .file name filename contentType content => w.file name filename contentType content

/-- The writer after calls. -/
def write (calls : List Call) : MultipartWriter := calls.foldl call {}

namespace Call

/-- Names of token characters, a plain media type, and nowhere the boundary. -/
inductive IsPlain : Call → Prop
  | field {name value : String} (token : Header.IsTokenText name)
      (free : ¬ boundary.toList <:+: value.toList) : IsPlain (.field name value)
  | file {name filename contentType : String} {content : Bytes} (token : Header.IsTokenText name)
      (filenameToken : Header.IsTokenText filename) (type : MediaType.IsPlain contentType)
      (free : ¬ Utf8.encode boundary <:+: content) :
      IsPlain (.file name filename contentType content)

/-- The name of a field that hides the name of a file behind it. -/
def hidesFile : Call → Prop
  | .field _ _ => False
  | .file name filename _ _ => filename ≠ "" ∧ "filenamefilename".toList <:+: name.toList

instance : (call : Call) → Decidable call.hidesFile
  | .field _ _ => inferInstanceAs (Decidable False)
  | .file _ _ _ _ => inferInstanceAs (Decidable (_ ∧ _))

/-- What is submitted as a value: a field, or a file without a name. -/
def values : Call → List (String × String)
  | .field name value => [(name, value)]
  | .file name filename _ content =>
      if filename = "" then [(name, Utf8.decodeLossy content)] else []

/-- What is submitted as a file. -/
def files : Call → List (String × File)
  | .field _ _ => []
  | .file name filename contentType content =>
      if filename = "" then [] else [(name, ⟨some filename, some contentType, content⟩)]

def content : Call → Bytes
  | .field _ value => Utf8.encode value
  | .file _ _ _ content => content

/-- The value of the first header. -/
def disposition : Call → Bytes
  | .field name _ => Utf8.encode Disposition.front ++ (Utf8.encode name ++ [0x22])
  | .file name filename _ _ => Utf8.encode Disposition.front ++ (Utf8.encode name ++ 0x22 ::
      (Utf8.encode Disposition.middle ++ (Utf8.encode filename ++ [0x22])))

/-- The value of the second header, which fields do not have. -/
def type? : Call → Option String
  | .field _ _ => none
  | .file _ _ contentType _ => some contentType

/-- The lines of the headers. -/
def lines (call : Call) : List Bytes :=
  (Utf8.encode "Content-Disposition" ++ 0x3A :: 0x20 :: call.disposition) ::
    call.type?.toList.map fun type => Utf8.encode "Content-Type" ++ 0x3A :: 0x20 :: Utf8.encode type

/-- The headers as they are read. -/
def headers (call : Call) : Headers :=
  ("content-disposition", call.disposition) ::
    call.type?.toList.map fun type => ("content-type", Utf8.encode type)

end Call

/-- What follows the first boundary. -/
def behind : List Call → Bytes
  | [] => hyphens ++ lineEnd
  | call :: calls => lineEnd ++ (call.lines.flatMap (· ++ lineEnd) ++ (lineEnd ++
      (call.content ++ (lineEnd ++ hyphens ++ Utf8.encode boundary ++ behind calls))))

theorem written_call (w : MultipartWriter) (call : Call) :
    (w.call call).written = w.written ++ (hyphens ++ Utf8.encode boundary ++ (lineEnd ++
      (call.lines.flatMap (· ++ lineEnd) ++ (lineEnd ++ (call.content ++ lineEnd))))) := by
  have hfront : Utf8.encode "\r\nContent-Disposition: form-data; name=\"" = lineEnd ++
      (Utf8.encode "Content-Disposition" ++ 0x3A :: 0x20 :: Utf8.encode Disposition.front) := rfl
  have htype : Utf8.encode "\"\r\nContent-Type: " =
      0x22 :: lineEnd ++ (Utf8.encode "Content-Type" ++ [0x3A, 0x20]) := rfl
  have hhyphens : Utf8.encode "--" = hyphens := rfl
  have hquote : Utf8.encode "\"" = [0x22] := rfl
  have hend : Utf8.encode "\r\n\r\n" = lineEnd ++ lineEnd := rfl
  have hmiddle : Utf8.encode "; filename=\"" = Utf8.encode Disposition.middle := rfl
  cases call with
  | field name value =>
      simp [call, field, part, Utf8.encode_append, hfront, hhyphens, hquote, hend, Call.lines,
        Call.disposition, Call.type?, Call.content]
  | file name filename contentType content =>
      simp [call, file, part, Utf8.encode_append, hfront, hhyphens, hquote, hend, htype, hmiddle,
        Call.lines, Call.disposition, Call.type?, Call.content]

/-- A body begins with a boundary. -/
theorem body_write (calls : List Call) :
    (write calls).body = hyphens ++ Utf8.encode boundary ++ behind calls := by
  have hall : ∀ w : MultipartWriter, (calls.foldl call w).body =
      w.written ++ (hyphens ++ Utf8.encode boundary ++ behind calls) := by
    induction calls with
    | nil =>
        intro w
        have hend : Utf8.encode "--\r\n" = hyphens ++ lineEnd := rfl
        have hhyphens : Utf8.encode "--" = hyphens := rfl
        simp [body, Utf8.encode_append, hhyphens, hend, behind]
    | cons call calls ih =>
        intro w
        rw [List.foldl_cons, ih, written_call]
        simp [behind]
  exact (hall {}).trans (List.nil_append _)

/-! ## What is read -/

variable {call : Call} {calls : List Call}

namespace Call

theorem IsPlain.isValue_disposition (h : call.IsPlain) :
    Header.isValue call.disposition = true := by
  have htoken : ∀ {s : String}, Header.IsTokenText s →
      (Utf8.encode s).all Header.isValueOctet = true :=
    fun hs => Header.isValue_encode hs.isPrintableText
  have hfront : (Utf8.encode Disposition.front).all Header.isValueOctet = true := by decide +kernel
  have hmiddle : (Utf8.encode Disposition.middle).all Header.isValueOctet = true := by
    decide +kernel
  have hquote : Header.isValueOctet 0x22 = true := by decide
  cases h with
  | field token free => simp [Header.isValue, disposition, hfront, htoken token, hquote]
  | file token filenameToken type free =>
      simp [Header.isValue, disposition, hfront, hmiddle, htoken token, htoken filenameToken,
        hquote]

/-- A header of a call: its name and its value. -/
theorem mem_lines {line : Bytes} (h : line ∈ call.lines) :
    ∃ name value, line = Utf8.encode name ++ 0x3A :: 0x20 :: value ∧
      (name = "Content-Disposition" ∧ value = call.disposition ∨
        name = "Content-Type" ∧ ∃ type ∈ call.type?, value = Utf8.encode type) := by
  rcases List.mem_cons.1 h with rfl | h
  · exact ⟨_, _, rfl, .inl ⟨rfl, rfl⟩⟩
  · obtain ⟨type, ht, rfl⟩ := List.mem_map.1 h
    exact ⟨_, _, rfl, .inr ⟨rfl, type, Option.mem_toList.1 ht, rfl⟩⟩

theorem IsPlain.type (h : call.IsPlain) : ∀ type ∈ call.type?, MediaType.IsPlain type := by
  intro type ht
  cases h with
  | field token free => cases ht
  | file token filenameToken plain free =>
      cases ht
      exact plain

/-- No line of a header is empty or holds the end of one. -/
theorem IsPlain.line (h : call.IsPlain) :
    ∀ line ∈ call.lines, line ≠ [] ∧ 0x0D ∉ line ∧ 0x0A ∉ line := by
  intro line hl
  have hvalue : line.all Header.isValueOctet = true := by
    obtain ⟨name, value, rfl, ⟨rfl, rfl⟩ | ⟨rfl, type, ht, rfl⟩⟩ := mem_lines hl
    · have hname : (Utf8.encode "Content-Disposition").all Header.isValueOctet = true := by
        decide +kernel
      have hv : call.disposition.all Header.isValueOctet = true := h.isValue_disposition
      simp only [List.all_append, List.all_cons, hname, hv]
      decide
    · have hname : (Utf8.encode "Content-Type").all Header.isValueOctet = true := by
        decide +kernel
      have hv : (Utf8.encode type).all Header.isValueOctet = true :=
        Header.isValue_encode (h.type type ht).isPrintableText
      simp only [List.all_append, List.all_cons, hname, hv]
      decide
  have hends : ∀ b ∈ line, Header.isValueOctet b = true := List.all_eq_true.1 hvalue
  refine ⟨?_, fun hm => absurd (hends _ hm) (by decide), fun hm => absurd (hends _ hm) (by decide)⟩
  obtain ⟨name, value, rfl, _⟩ := mem_lines hl
  simp

theorem headerOf?_disposition (h : call.IsPlain) :
    Multipart.headerOf? (Utf8.encode "Content-Disposition" ++ 0x3A :: 0x20 :: call.disposition) =
      some ("content-disposition", call.disposition) := by
  have hlower : Text.lowerAscii "Content-Disposition" = "content-disposition" := by decide +kernel
  have hfirst : call.disposition.head? = some 0x66 := by cases call <;> rfl
  have hlast : call.disposition.getLast? = some 0x22 := by
    cases call <;> simp [disposition, List.getLast?_cons]
  rw [← hlower]
  apply Multipart.headerOf?_append (by decide +kernel) (by decide) h.isValue_disposition
  · rw [hfirst]
    intro b hb
    cases hb
    decide
  · rw [hlast]
    intro b hb
    cases hb
    decide

theorem headerOf?_type {type : String} (h : MediaType.IsPlain type) :
    Multipart.headerOf? (Utf8.encode "Content-Type" ++ 0x3A :: 0x20 :: Utf8.encode type) =
      some ("content-type", Utf8.encode type) := by
  have hlower : Text.lowerAscii "Content-Type" = "content-type" := by decide +kernel
  rw [← hlower]
  exact Multipart.headerOf?_append (by decide +kernel) (by decide)
    (Header.isValue_encode h.isPrintableText)
    (fun b hb => h.not_blank b (List.mem_of_mem_head? hb))
    (fun b hb => h.not_blank b (List.mem_of_mem_getLast? hb))

theorem IsPlain.headers?_lines (h : call.IsPlain) :
    Multipart.headers? (call.lines.flatMap (· ++ lineEnd)) = some call.headers := by
  have hlines := Multipart.headerLines_flatMap fun line hl =>
    ⟨(h.line line hl).1, (h.line line hl).2.2⟩
  have hfirst := headerOf?_disposition h
  rw [Multipart.headers?, hlines, lines, headers, List.mapM_cons, hfirst]
  cases ht : call.type? with
  | none => rfl
  | some type =>
      rw [Option.toList_some, List.map_singleton, List.mapM_cons, headerOf?_type (h.type type ht)]
      rfl

theorem IsPlain.free (h : call.IsPlain) : ¬ Utf8.encode boundary <:+: call.content := by
  have hprintable : Header.IsPrintableText boundary := by decide +kernel
  cases h with
  | field token free => exact fun hi => free (hprintable.infix_of_encode hi)
  | file token filenameToken type free => exact free

/-- The boundary in a line of its own is found behind the content of a part. -/
theorem IsPlain.atMark?_content (h : call.IsPlain) (rest : Bytes) :
    Cut.atMark? (lineEnd ++ hyphens ++ Utf8.encode boundary)
      (call.content ++ (lineEnd ++ hyphens ++ Utf8.encode boundary ++ rest)) =
        some (call.content, rest) := by
  have hreturn : (0x0D : UInt8) ∉ 0x0A :: (hyphens ++ Utf8.encode boundary) := by decide +kernel
  have hmark : ¬ 0x0D :: 0x0A :: (hyphens ++ Utf8.encode boundary) <:+: call.content := by
    intro hi
    have hsuffix : Utf8.encode boundary <:+ 0x0D :: 0x0A :: (hyphens ++ Utf8.encode boundary) :=
      ⟨lineEnd ++ hyphens, rfl⟩
    exact h.free (hsuffix.isInfix.trans hi)
  exact Cut.atMark?_content hreturn hmark rest

end Call

/-- Behind a boundary the parts are read as they were written. -/
theorem partsFrom_behind (h : ∀ call ∈ calls, call.IsPlain) {count : Nat}
    (hc : calls.length < count) :
    Multipart.partsFrom (Utf8.encode boundary) count (behind calls) =
      .ok (calls.map fun call => Multipart.partOf call.headers call.content) := by
  induction calls generalizing count with
  | nil =>
      cases count with
      | zero => cases hc
      | succ count => rfl
  | cons call calls ih =>
      rw [List.forall_mem_cons] at h
      cases count with
      | zero => cases hc
      | succ count =>
          have hrest := ih h.2 (Nat.lt_of_succ_lt_succ hc)
          let rest := lineEnd ++ hyphens ++ Utf8.encode boundary ++ behind calls
          obtain ⟨block, hblock, hfound⟩ : ∃ block,
              block ++ lineEnd = call.lines.flatMap (· ++ lineEnd) ∧
              Cut.atMark? (lineEnd ++ lineEnd)
                (call.lines.flatMap (· ++ lineEnd) ++ (lineEnd ++ (call.content ++ rest))) =
                  some (block, call.content ++ rest) :=
            Multipart.atMark?_lines
              (fun line hl => ⟨(h.1.line line hl).1, (h.1.line line hl).2.1⟩) _
          have hheaders : Multipart.headers? (block ++ lineEnd) = some call.headers := by
            rw [hblock, h.1.headers?_lines]
          have hcontent := h.1.atMark?_content (behind calls)
          -- a line ends behind the boundary, and the body does not
          have hbehind : ∀ xs, hyphens.isPrefixOf (lineEnd ++ xs) = false ∧
              (lineEnd ++ xs).dropWhile Multipart.isBlank = lineEnd ++ xs := fun xs => ⟨rfl, rfl⟩
          rw [behind, Multipart.partsFrom, (hbehind _).1, (hbehind _).2, Cut.isPrefixOf?_append]
          simp only [rest] at hfound
          simp only [hfound, hheaders, hcontent, hrest]
          rfl

theorem length_le_behind (calls : List Call) : calls.length ≤ (behind calls).length := by
  induction calls with
  | nil => exact Nat.zero_le _
  | cons call calls ih =>
      simp only [behind, List.length_append, List.length_cons, lineEnd]
      omega

/-- A body is read as the parts that were written. -/
theorem read_write (h : ∀ call ∈ calls, call.IsPlain) :
    Multipart.read (Utf8.encode boundary) (write calls).body =
      .ok (calls.map fun call => Multipart.partOf call.headers call.content) := by
  have hcount : calls.length < (write calls).body.length + 1 := by
    have hle := length_le_behind calls
    rw [body_write, List.length_append]
    omega
  have hmark : Cut.atMark? (hyphens ++ Utf8.encode boundary) (write calls).body =
      some ([], behind calls) := by
    rw [body_write]
    exact Cut.atMark?_self (by decide +kernel) _
  rw [Multipart.read, hmark]
  exact partsFrom_behind h hcount

end MultipartWriter

/-! ## Forms -/

namespace MultipartForm

open MultipartWriter (Call)

variable {call : Call} {calls : List Call}

/-- The part that is read of what was written with a call. -/
theorem partOf_headers (h : call.IsPlain) :
    Multipart.partOf call.headers call.content =
      ⟨Disposition.parameter? "name" call.disposition,
        Disposition.parameter? "filename" call.disposition, call.type?, call.content⟩ := by
  have hdisposition : call.headers.get? "content-disposition" = some call.disposition := by
    cases call <;> rfl
  have htype : ((call.headers.get? "content-type").bind Header.visibleText?).bind
      (fun s => (MediaType.parse? s).map MediaType.text) = call.type? := by
    cases ht : call.type? with
    | none => cases call <;> first | rfl | cases ht
    | some type =>
        have hplain := h.type type ht
        have hget : call.headers.get? "content-type" = some (Utf8.encode type) := by
          cases call <;> cases ht; rfl
        rw [hget, Option.bind_some, Header.visibleText?_encode hplain.isPrintableText,
          Option.bind_some, hplain.parse?]
  rw [Multipart.partOf, hdisposition, htype]
  rfl

/-- A part that was written adds what was submitted with it. -/
theorem withPart_partOf (h : call.IsPlain) (hh : ¬ call.hidesFile) (f : MultipartForm) :
    f.withPart (Multipart.partOf call.headers call.content) =
      ⟨f.values ++ call.values, f.files ++ call.files⟩ := by
  rw [partOf_headers h, withPart]
  cases h with
  | @field name value token free =>
      have hname : Disposition.parameter? "name" (Call.field name value).disposition = some name :=
        Disposition.parameter?_name token []
      have hnone : Disposition.parameter? "filename" (Call.field name value).disposition = none :=
        Disposition.parameter?_filename_eq_none token
      simp only [hname, hnone, Option.filter_none, withValue, Call.content, Call.values, Call.files,
        Utf8.decodeLossy_encode, List.append_nil]
  | @file name filename contentType content token filenameToken type free =>
      have hname : Disposition.parameter? "name"
          (Call.file name filename contentType content).disposition = some name :=
        Disposition.parameter?_name token _
      by_cases he : filename = ""
      · subst he
        have hempty : (Disposition.parameter? "filename"
            (Call.file name "" contentType content).disposition).filter (· != "") = none :=
          Disposition.parameter?_filename_empty token
        simp only [hname, hempty, withValue, Call.content, Call.values, Call.files, if_true,
          List.append_nil]
      · have hfile : Disposition.parameter? "filename"
            (Call.file name filename contentType content).disposition = some filename :=
          Disposition.parameter?_filename token filenameToken fun hi => hh ⟨he, hi⟩
        have hkept : (some filename).filter (· != "") = some filename :=
          Option.filter_some_pos (bne_iff_ne.2 he)
        simp only [hname, hfile, hkept, withFile, Call.type?, Call.content, Call.values, Call.files,
          if_neg he, List.append_nil]

theorem foldl_withPart (h : ∀ call ∈ calls, call.IsPlain ∧ ¬ call.hidesFile) (f : MultipartForm) :
    (calls.map fun call => Multipart.partOf call.headers call.content).foldl withPart f =
      ⟨f.values ++ calls.flatMap Call.values, f.files ++ calls.flatMap Call.files⟩ := by
  induction calls generalizing f with
  | nil => simp
  | cons call calls ih =>
      rw [List.forall_mem_cons] at h
      rw [List.map_cons, List.foldl_cons, withPart_partOf h.1.1 h.1.2, ih h.2]
      simp

theorem foldl_withValue (pairs : List (String × String)) (f : MultipartForm) :
    pairs.foldl (fun f (key, value) => f.withValue key value) f = ⟨f.values ++ pairs, f.files⟩ := by
  induction pairs generalizing f with
  | nil => simp
  | cons pair pairs ih =>
      rw [List.foldl_cons, ih]
      simp [withValue]

/-- The form holds what was submitted by calls and, behind it, by pairs: the values of every key
and its files in order, of which the first stand for all. -/
structure Holds (f : MultipartForm) (calls : List Call) (pairs : List (String × String)) :
    Prop where
  getAll : ∀ key, f.getAll key = valuesOf key (calls.flatMap Call.values) ++ valuesOf key pairs
  get : ∀ key, f.get key =
    (valuesOf key (calls.flatMap Call.values) ++ valuesOf key pairs).headD ""
  getFiles : ∀ key, f.getFiles key = valuesOf key (calls.flatMap Call.files)
  getFile : ∀ key, f.getFile key = match valuesOf key (calls.flatMap Call.files) with
    | file :: _ => .ok file
    | [] => .error (.missingFile key)

theorem holds (calls : List Call) (pairs : List (String × String)) :
    Holds ⟨calls.flatMap Call.values ++ pairs, calls.flatMap Call.files⟩ calls pairs := by
  refine ⟨fun key => ?_, fun key => ?_, fun key => rfl, fun key => ?_⟩
  · rw [MultipartForm.getAll, valuesOf_append]
  · rw [MultipartForm.get, MultipartForm.getAll, valuesOf_append]
  · rw [MultipartForm.getFile, MultipartForm.getFile?, MultipartForm.getFiles]
    cases valuesOf key (calls.flatMap Call.files) <;> rfl

theorem boundaryOf?_contentType :
    Multipart.boundaryOf? (some (Utf8.encode MultipartWriter.contentType)) =
      some (Utf8.encode MultipartWriter.boundary) := by decide +kernel

/-- The parts of a body that was written and is not too long are added one after the other. -/
theorem ofBody_of_isPlain (h : ∀ call ∈ calls, call.IsPlain) {limit : Option Nat}
    (hl : ∀ n ∈ limit, (MultipartWriter.write calls).body.length ≤ n) (query : Option String) :
    ofBody limit (some (Utf8.encode MultipartWriter.contentType)) query
      (MultipartWriter.write calls).body =
        .ok (((query.map fun q => FormPairs.read (Utf8.encode q)).getD []).foldl
          (fun f (key, value) => f.withValue key value)
          ((calls.map fun call => Multipart.partOf call.headers call.content).foldl
            withPart {})) := by
  have hfits : ¬ limit.any (· < (MultipartWriter.write calls).body.length) = true := by
    rw [Option.any_eq_true]
    rintro ⟨n, hn, hlong⟩
    exact absurd (hl n hn) (Nat.not_le.2 (of_decide_eq_true hlong))
  rw [ofBody, boundaryOf?_contentType]
  dsimp only
  rw [if_neg hfits, MultipartWriter.read_write h]

theorem ofBody_write (h : ∀ call ∈ calls, call.IsPlain ∧ ¬ call.hidesFile) {limit : Option Nat}
    (hl : ∀ n ∈ limit, (MultipartWriter.write calls).body.length ≤ n) (u : Uri) :
    ofBody limit (some (Utf8.encode MultipartWriter.contentType)) u.query
      (MultipartWriter.write calls).body =
        .ok ⟨calls.flatMap Call.values ++ u.pairs, calls.flatMap Call.files⟩ := by
  rw [ofBody_of_isPlain (fun call hm => (h call hm).1) hl, foldl_withPart h, foldl_withValue]
  rfl

theorem ofBody_tooLong {n : Nat} {body : Bytes} (h : n < body.length) (query : Option String) :
    ofBody (some n) (some (Utf8.encode MultipartWriter.contentType)) query body =
      .error (.malformed "stream read failed") := by
  rw [ofBody, boundaryOf?_contentType]
  exact if_pos (decide_eq_true h)

end MultipartForm

namespace Client

open MultipartWriter (Call)

/-- What is written with plain calls, none of which hides its file, is submitted with a request to
any path and with any pairs in its target. The form that is read from it holds what was written,
unless there is a limit and the body is longer. -/
theorem holds_multipartRequest {path uri : String} {calls : List Call}
    {pairs : List (String × String)} (h : ∀ call ∈ calls, call.IsPlain ∧ ¬ call.hidesFile)
    (hp : Uri.IsPath path) (hc : Uri.Carries path pairs uri)
    (hs : uri.utf8ByteSize ≤ Uri.lengthLimit) :
    ∃ request, multipartRequest? uri (MultipartWriter.write calls) = some request ∧
      (∀ limit : Option Nat, (∀ n ∈ limit, request.body.length ≤ n) →
        ∃ form, MultipartForm.ofBody limit (request.headers.get? "content-type") request.uri.query
          request.body = .ok form ∧ form.Holds calls pairs) ∧
      ∀ n, n < request.body.length →
        MultipartForm.ofBody (some n) (request.headers.get? "content-type") request.uri.query
          request.body = .error (.malformed "stream read failed") := by
  obtain ⟨u, hu, hpairs⟩ := Uri.parse?_of_carries hp hc hs
  let request : Request :=
    { method := "POST"
      uri := u
      headers := [("content-type", Utf8.encode MultipartWriter.contentType)]
      body := (MultipartWriter.write calls).body }
  have hrequest : multipartRequest? uri (MultipartWriter.write calls) = some request := by
    rw [multipartRequest?, hu]
    rfl
  have htype : request.headers.get? "content-type" =
      some (Utf8.encode MultipartWriter.contentType) := rfl
  refine ⟨request, hrequest, fun limit hl => ⟨_, ?_, MultipartForm.holds calls pairs⟩,
    fun n hn => ?_⟩
  · rw [htype, ← hpairs]
    exact MultipartForm.ofBody_write h hl u
  · rw [htype]
    exact MultipartForm.ofBody_tooLong hn _

/-! ## An album

Its contents hold ends of lines, hyphens, what a boundary begins with, and nothing at all; the
last file was not chosen. -/

def album : List Call :=
  [.field "title" "rock\r\n--velum-test-boundary\r\n",
    .file "photo" "a.png" "image/png" [0xFF, 0x0D], .field "title" "",
    .file "photo" "b" "image/svg+xml" [0x0D, 0x0A, 0x2D, 0x2D],
    .file "photo" "" "text/plain" [0x78, 0xFF]]

theorem isPlain_text : MediaType.IsPlain "text/plain" :=
  ⟨⟨"text", "plain", rfl, by decide, by decide, by decide +kernel, by decide +kernel⟩,
    by decide +kernel⟩

/-- The octet that begins no character becomes one that stands for it. -/
theorem album_holds :
    (∀ call ∈ album, call.IsPlain ∧ ¬ call.hidesFile) ∧
    album.flatMap Call.values =
      [("title", "rock\r\n--velum-test-boundary\r\n"), ("title", ""), ("photo", "x\uFFFD")] ∧
    ∃ request form,
      multipartRequest? ("/new" ++ "?" ++ FormPairs.writeText [("title", "a=b&c")])
        (MultipartWriter.write album) = some request ∧
      MultipartForm.ofBody none (request.headers.get? "content-type") request.uri.query
        request.body = .ok form ∧ form.Holds album [("title", "a=b&c")] := by
  have hpng : MediaType.IsPlain "image/png" :=
    ⟨⟨"image", "png", rfl, by decide, by decide, by decide +kernel, by decide +kernel⟩,
      by decide +kernel⟩
  have hsvg : MediaType.IsPlain "image/svg+xml" :=
    ⟨⟨"image", "svg+xml", rfl, by decide, by decide, by decide +kernel, by decide +kernel⟩,
      by decide +kernel⟩
  have hplain : ∀ call ∈ album, call.IsPlain ∧ ¬ call.hidesFile := by
    simp only [album, List.forall_mem_cons]
    refine ⟨⟨.field ?_ ?_, ?_⟩, ⟨.file ?_ ?_ hpng ?_, ?_⟩, ⟨.field ?_ ?_, ?_⟩,
      ⟨.file ?_ ?_ hsvg ?_, ?_⟩, ⟨.file ?_ ?_ isPlain_text ?_, ?_⟩,
      fun _ h => absurd h List.not_mem_nil⟩
    all_goals decide +kernel
  obtain ⟨request, hrequest, hread, _⟩ := @holds_multipartRequest "/new"
    ("/new" ++ "?" ++ FormPairs.writeText [("title", "a=b&c")]) album [("title", "a=b&c")] hplain
    ⟨by decide +kernel, by decide +kernel⟩ .query (by decide +kernel)
  obtain ⟨form, hform, hholds⟩ := hread none nofun
  exact ⟨hplain, by decide +kernel, request, form, hrequest, hform, hholds⟩

/-! ## Files that are not held

A file may be hidden by the name of its field; it may have no name of its own; and it may be too
long where nobody lifted the limit. -/

/-- What is read of a body with one call. -/
def readAlone (call : Call) : Except FormError MultipartForm :=
  MultipartForm.ofBody (some MultipartForm.bodyLimit)
    (some (Utf8.encode MultipartWriter.contentType)) none (MultipartWriter.write [call]).body

def hiddenFile : Call := .file "filenamefilename" "a.txt" "text/plain" (Utf8.encode "hello")

def unchosenFile : Call := .file "avatar" "" "text/plain" (Utf8.encode "hello")

def longFile : Call :=
  .file "avatar" "a.txt" "text/plain" (List.replicate MultipartForm.bodyLimit 0)

/-- A body is longer than any content in it. -/
theorem length_content_lt (call : Call) :
    call.content.length < (MultipartWriter.write [call]).body.length := by
  rw [MultipartWriter.body_write]
  simp only [MultipartWriter.behind, List.length_append, Multipart.lineEnd, List.length_cons]
  omega

theorem isPlain_zeros {name filename : String} (hn : Header.IsTokenText name)
    (hf : Header.IsTokenText filename) (count : Nat) :
    (Call.file name filename "text/plain" (List.replicate count 0)).IsPlain := by
  refine .file hn hf isPlain_text fun hi => ?_
  -- a boundary begins with a letter
  have hv : (0x76 : UInt8) ∈ Utf8.encode MultipartWriter.boundary := by decide +kernel
  exact absurd (List.eq_of_mem_replicate (hi.subset hv)) (by decide)

theorem readAlone_of_isPlain {call : Call} (h : call.IsPlain)
    (hl : (MultipartWriter.write [call]).body.length ≤ MultipartForm.bodyLimit) :
    readAlone call =
      .ok (MultipartForm.withPart {} (Multipart.partOf call.headers call.content)) :=
  MultipartForm.ofBody_of_isPlain (List.forall_mem_singleton.2 h)
    (fun n hn => by cases hn; exact hl) none

theorem files_not_held :
    hiddenFile.IsPlain ∧ readAlone hiddenFile = .ok ⟨[("filenamefilename", "hello")], []⟩ ∧
    unchosenFile.IsPlain ∧ readAlone unchosenFile = .ok ⟨[("avatar", "hello")], []⟩ ∧
    longFile.IsPlain ∧ readAlone longFile = .error (.malformed "stream read failed") := by
  have hhidden : hiddenFile.IsPlain :=
    .file (by decide +kernel) (by decide +kernel) isPlain_text (by decide +kernel)
  have hunchosen : unchosenFile.IsPlain :=
    .file (by decide +kernel) (by decide +kernel) isPlain_text (by decide +kernel)
  have hlong : MultipartForm.bodyLimit < (MultipartWriter.write [longFile]).body.length := by
    have hcontent : longFile.content.length = MultipartForm.bodyLimit := List.length_replicate
    exact hcontent ▸ length_content_lt longFile
  refine ⟨hhidden, ?_, hunchosen, ?_, ?_, MultipartForm.ofBody_tooLong hlong none⟩
  · rw [readAlone_of_isPlain hhidden (by decide +kernel)]
    decide +kernel
  · rw [readAlone_of_isPlain hunchosen (by decide +kernel)]
    decide +kernel
  · exact isPlain_zeros (by decide +kernel) (by decide +kernel) _

end Client

end Formwork
