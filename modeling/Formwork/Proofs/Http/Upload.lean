import Formwork.Http.Context
import Formwork.Proofs.Form.MediaType

/-! # Uploads

A multipart form can be read from a request, or from the context of the request, which looks at
the beginning of the content type first. Where both read a form it is the same one. They differ
on types with capitals, which are compared in lower case by the reader and as they stand by the
context (`Context.multipartForm_agrees_iff`).
-/

namespace Formwork

namespace MultipartForm

variable {limit : Option Nat} {contentType : Option Bytes} {query : Option String} {body : Bytes}
  {form : MultipartForm}

/-- A limit keeps forms from being read and changes nothing else. -/
theorem ofBody_eq_ok_iff :
    ofBody limit contentType query body = .ok form ↔
      ofBody none contentType query body = .ok form ∧ ∀ n ∈ limit, body.length ≤ n := by
  have hfits : limit.any (· < body.length) = false ↔ ∀ n ∈ limit, body.length ≤ n := by
    cases limit <;> simp
  unfold ofBody
  rw [← hfits]
  cases Multipart.boundaryOf? contentType with
  | none => simp
  | some boundary => cases limit.any (· < body.length) <;> simp

end MultipartForm

/-- A boundary is only found in a type that begins as one of a multipart form, capitals apart. -/
theorem Multipart.hasHead_of_boundaryOf? {contentType : Option Bytes} {boundary : Bytes}
    (h : boundaryOf? contentType = some boundary) :
    ∃ text, contentType.bind Header.visibleText? = some text ∧
      Text.hasHead "multipart/form-data" (Text.lowerAscii text) = true := by
  unfold boundaryOf? at h
  obtain ⟨value, hvalue, h⟩ := Option.bind_eq_some_iff.1 h
  obtain ⟨text, htext, h⟩ := Option.bind_eq_some_iff.1 h
  obtain ⟨m, hm, h⟩ := Option.bind_eq_some_iff.1 h
  refine ⟨text, hvalue ▸ htext, ?_⟩
  split at h
  · rename_i hnames
    rw [Bool.and_eq_true, beq_iff_eq, beq_iff_eq] at hnames
    have hhead := MediaType.hasHead_of_parse? hm
    rwa [hnames.1, hnames.2] at hhead
  · cases h

namespace Request

variable {r : Request} {limit : Option Nat} {form : MultipartForm}

/-- The multipart form of a request. There may be a limit to the length of its body. -/
def multipartForm (r : Request) (limit : Option Nat) : Except FormError MultipartForm :=
  MultipartForm.ofBody limit (r.headers.get? "content-type") r.uri.query r.body

/-- Where the media type of a multipart form is named, there is no capital. -/
def HasSmallType (r : Request) : Prop :=
  MediaType.IsSmall
    (String.ofList ((r.header "content-type").toList.take "multipart/form-data".length))

theorem hasHead_of_multipartForm (h : r.multipartForm limit = .ok form) :
    Text.hasHead "multipart/form-data" (Text.lowerAscii (r.header "content-type")) = true := by
  have hname : Text.lowerAscii "content-type" = "content-type" := by decide +kernel
  unfold multipartForm MultipartForm.ofBody at h
  split at h
  · cases h
  · rename_i boundary hb
    obtain ⟨text, htext, hhead⟩ := Multipart.hasHead_of_boundaryOf? hb
    rw [Request.header, hname, htext, Option.getD_some]
    exact hhead

end Request

namespace Context

variable {c : Context} {limit : Nat} {reader : Option Nat} {form : MultipartForm}

theorem multipartForm_eq_ok_iff (h : c.request.body.length ≤ limit) :
    c.multipartForm limit = .ok form ↔
      c.request.multipartForm none = .ok form ∧ c.request.HasSmallType := by
  have hguard : c.multipartForm limit = .ok form ↔
      c.request.multipartForm none = .ok form ∧
        Text.hasHead "multipart/form-data" (c.request.header "content-type") = true := by
    unfold Context.multipartForm
    cases Text.hasHead "multipart/form-data" (c.request.header "content-type") with
    | false => simp
    | true => simp [Nat.not_lt.2 h, Request.multipartForm]
  rw [hguard]
  refine and_congr_right fun hform => ?_
  exact MediaType.hasHead_iff_isSmall (Request.hasHead_of_multipartForm hform)

/-- A context and a reader, which may have a limit of its own, read the same forms exactly if a form
that could be read has a type without capitals and a body that the reader takes, or neither. -/
theorem multipartForm_agrees_iff (h : c.request.body.length ≤ limit) :
    (∀ form, c.multipartForm limit = .ok form ↔ c.request.multipartForm reader = .ok form) ↔
      ∀ form, c.request.multipartForm none = .ok form →
        (c.request.HasSmallType ↔ ∀ n ∈ reader, c.request.body.length ≤ n) := by
  have hreader : ∀ form, c.request.multipartForm reader = .ok form ↔
      c.request.multipartForm none = .ok form ∧ ∀ n ∈ reader, c.request.body.length ≤ n :=
    fun _ => MultipartForm.ofBody_eq_ok_iff
  refine forall_congr' fun form => ?_
  rw [multipartForm_eq_ok_iff h, hreader, and_congr_right_iff]

/-! ## A postcard -/

/-- A body with one value, whose type is named as `type`. -/
def postcard (type : String) : Context :=
  { site := ⟨{}, ⟨∅⟩, none⟩
    now := 0
    request :=
      { method := "POST"
        uri := { path := "/upload" }
        headers := [("content-type", Utf8.encode (type ++ "; boundary=XyZ"))]
        body := Utf8.encode
          "--XyZ\r\nContent-Disposition: form-data; name=\"title\"\r\n\r\nHoliday\r\n--XyZ--\r\n" }
    params := ∅
    route := "/upload" }

theorem postcard_agrees :
    (postcard "multipart/form-data").request.body.length ≤ 1000 ∧
      (postcard "multipart/form-data").request.multipartForm none =
        .ok ⟨[("title", "Holiday")], []⟩ ∧
      ∀ form, (postcard "multipart/form-data").multipartForm 1000 = .ok form ↔
        (postcard "multipart/form-data").request.multipartForm none = .ok form := by
  have hfits : (postcard "multipart/form-data").request.body.length ≤ 1000 := by decide +kernel
  have hsmall : (postcard "multipart/form-data").request.HasSmallType := by
    unfold Request.HasSmallType
    decide +kernel
  refine ⟨hfits, by decide +kernel, (multipartForm_agrees_iff hfits).2 fun _ _ => ?_⟩
  exact iff_of_true hsmall nofun

/-- With capitals it is only read from the request. -/
theorem postcard_refused :
    (postcard "Multipart/Form-Data").request.body.length ≤ 1000 ∧
      (postcard "Multipart/Form-Data").request.multipartForm none =
        .ok ⟨[("title", "Holiday")], []⟩ ∧
      (postcard "Multipart/Form-Data").multipartForm 1000 = .error .notMultipart := by
  refine ⟨?_, ?_, ?_⟩ <;> decide +kernel

end Context

end Formwork
