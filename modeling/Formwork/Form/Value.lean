import Formwork.Calendar.Pattern
import Formwork.Dict
import Formwork.Form.Sniff
import Formwork.Json.Basic
import Formwork.Url.Parser

/-! # Values of forms

The typed values that validation makes of what was submitted: texts, whole
numbers, truth values, dates, web addresses and uploaded files. `FormData` holds
them by field and hands them on as a JSON document.
-/

namespace Formwork

/-- An uploaded file: what the client says of it, and its content. -/
structure File where
  filename : Option String
  contentType : Option String
  content : Bytes
deriving DecidableEq

namespace File

/-- The number of octets. -/
def size (f : File) : Nat := f.content.length

/-- The media type found from the content. -/
def mediaType (f : File) : String := Sniff.mediaType f.content

/-- What is known of a file without its content. -/
def toJson (f : File) : Json :=
  .object [("filename", .ofText? f.filename), ("content_type", .ofText? f.contentType),
    ("size", .int f.size)]

end File

/-- A value of a field. -/
inductive Value where
  | text (value : String)
  | int (value : Int)
  | bool (value : Bool)
  | date (value : DateTime)
  | url (value : Url)
  | file (value : File)
deriving DecidableEq

/-- The kinds of values. -/
inductive Value.Kind where
  | text | int | bool | date | url | file
deriving DecidableEq

namespace Value

/-- A kind in words. -/
def Kind.words : Kind → String
  | .text => "a string"
  | .int => "an integer"
  | .bool => "a boolean"
  | .date => "a date"
  | .url => "a url"
  | .file => "a file"

/-- The kind of a value. -/
def kind : Value → Kind
  | text _ => .text
  | int _ => .int
  | bool _ => .bool
  | date _ => .date
  | url _ => .url
  | file _ => .file

/-- The text of a text value. -/
def asText? : Value → Option String
  | text s => some s
  | _ => none

/-- The number of a whole-number value. -/
def asInt? : Value → Option Int
  | int n => some n
  | _ => none

/-- The truth value of a value that is one. -/
def asBool? : Value → Option Bool
  | bool b => some b
  | _ => none

/-- The date of a date value. -/
def asDate? : Value → Option DateTime
  | date d => some d
  | _ => none

/-- The address of an address value. -/
def asUrl? : Value → Option Url
  | url u => some u
  | _ => none

/-- The file of a file value. -/
def asFile? : Value → Option File
  | file f => some f
  | _ => none

/-- A value as a document: dates and addresses as texts, files by what is known
of them. -/
def toJson : Value → Json
  | text s => .string s
  | int n => .int n
  | bool b => .bool b
  | date d => .string (Calendar.isoText d)
  | url u => .string u.text
  | file f => f.toJson

end Value

/-- Values by field. -/
abbrev FormData := Dict Value

namespace FormData

/-- The value of a field and the data without it. -/
def take (data : FormData) (field : String) : Option Value × FormData :=
  (data.get? field, data.erase field)

/-- The data as a document, fields in ascending order. -/
def toJson (data : FormData) : Json :=
  .object (Json.Members.ofList (data.entries.map fun (field, value) => (field, value.toJson)))

end FormData

end Formwork
