import Formwork.Codec.FormPairs
import Formwork.Form.Value

/-! # Submitted forms

A form holds what was submitted, in order: pairs of a key and a value, and in a
multipart form also files by key. The first value of a key stands for it, and a
key without values reads as the empty text. Validation sees a form only through
`Source`.
-/

namespace Formwork

/-- What validation can ask of a form: the first value of a key, and its first
file. -/
structure Source where
  get : String → String
  file? : String → Option File

/-- A url-encoded form: pairs in order of submission. -/
structure Form where
  pairs : List (String × String)
deriving DecidableEq

/-- The values of a key in order. -/
def valuesOf {α : Type} (key : String) (pairs : List (String × α)) : List α :=
  (pairs.filter fun pair => pair.1 == key).map Prod.snd

/-- The distinct keys in order of their first pair. -/
def keysOf {α : Type} (pairs : List (String × α)) : List String :=
  (pairs.map Prod.fst).eraseDups

namespace Form

/-- Reads the pairs of a body and then those of a query, either of which may be
absent. -/
def ofEncoded (body : Option Bytes) (query : Option String) : Form :=
  ⟨((body.map FormPairs.read).getD []) ++
    ((query.map fun q => FormPairs.read (Utf8.encode q)).getD [])⟩

/-- Every value of a key. -/
def getAll (f : Form) (key : String) : List String := valuesOf key f.pairs

/-- The first value of a key, or the empty text. -/
def get (f : Form) (key : String) : String := (f.getAll key).headD ""

/-- The keys that have values. -/
def keys (f : Form) : List String := keysOf f.pairs

/-- The form as a source; it has no files. -/
def source (f : Form) : Source := ⟨f.get, fun _ => none⟩

end Form

/-- A multipart form: values and files by key, each in order of submission. -/
structure MultipartForm where
  values : List (String × String) := []
  files : List (String × File) := []
deriving DecidableEq

namespace MultipartForm

/-- Adds a value behind the values of its key. -/
def withValue (f : MultipartForm) (key value : String) : MultipartForm :=
  { f with values := f.values ++ [(key, value)] }

/-- Adds a file behind the files of its key. -/
def withFile (f : MultipartForm) (key : String) (file : File) : MultipartForm :=
  { f with files := f.files ++ [(key, file)] }

/-- Every value of a key; files are not values. -/
def getAll (f : MultipartForm) (key : String) : List String := valuesOf key f.values

/-- The first value of a key, or the empty text. -/
def get (f : MultipartForm) (key : String) : String := (f.getAll key).headD ""

/-- Every file of a key. -/
def getFiles (f : MultipartForm) (key : String) : List File := valuesOf key f.files

/-- The first file of a key. -/
def getFile? (f : MultipartForm) (key : String) : Option File := (f.getFiles key).head?

/-- The keys that have values. -/
def keys (f : MultipartForm) : List String := keysOf f.values

/-- The form as a source. -/
def source (f : MultipartForm) : Source := ⟨f.get, f.getFile?⟩

end MultipartForm

/-- Why a form cannot be read from a request, or a file not from a form. -/
inductive FormError where
  | missingFile (key : String)
  | tooLarge (size limit : Nat)
  | notMultipart
  | malformed (reason : String)
deriving DecidableEq

/-- The error in words. -/
def FormError.message : FormError → String
  | missingFile key => "no file uploaded for field `" ++ key ++ "`"
  | tooLarge size limit =>
    "form body of " ++ toString size ++ " bytes exceeds the limit of " ++ toString limit ++ " bytes"
  | notMultipart => "request content type is not multipart/form-data"
  | malformed reason => "invalid multipart body: " ++ reason

/-- The first file of a key, which has to have one. -/
def MultipartForm.getFile (f : MultipartForm) (key : String) : Except FormError File :=
  match f.getFile? key with
  | some file => .ok file
  | none => .error (.missingFile key)

end Formwork
