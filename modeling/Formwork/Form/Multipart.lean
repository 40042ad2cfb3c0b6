import Formwork.Form.Basic
import Formwork.Form.Disposition
import Formwork.Form.MediaType

/-! # Multipart bodies

A multipart body is cut at lines that begin with two hyphens and a boundary; two
more hyphens end it. A part has headers and, behind an empty line, a content.
`Multipart.read` cuts a body into parts, `MultipartForm.ofBody` makes a form of
them, and `MultipartWriter` writes bodies.
-/

namespace Formwork

namespace Multipart

/-- A part of a body: what its headers say, and its content. -/
structure Part where
  name : Option String
  filename : Option String
  contentType : Option String
  content : Bytes
deriving DecidableEq

/-- Why a body cannot be read. -/
inductive ReadError where
  /-- The content type names no boundary. -/
  | noBoundary
  /-- The body ends, or goes on otherwise, where a boundary has to stand. -/
  | incomplete
  /-- The content of a part has no end. -/
  | incompletePart (name : Option String)
  /-- The headers of a part cannot be read. -/
  | badHeaders
  /-- The body is longer than it may be. -/
  | tooLong
deriving DecidableEq

/-- A text in quotation marks, with escapes for what could not be read in them. -/
def quoted (s : String) : String :=
  let escape (c : Char) : List Char :=
    if c = '"' then ['\\', '"']
    else if c = '\\' then ['\\', '\\']
    else if c = '\t' then ['\\', 't']
    else [c]
  String.ofList ('"' :: s.toList.flatMap escape ++ ['"'])

/-- The error in words. -/
def ReadError.message : ReadError → String
  | noBoundary => "Invalid `boundary` for `multipart/form-data` request"
  | incomplete => "incomplete multipart stream"
  | incompletePart name =>
    "field " ++ quoted (name.getD "<unknown>") ++ " received with incomplete data"
  | badHeaders => "failed to read headers"
  | tooLong => "stream read failed"

/-- The end of a line. -/
def lineEnd : Bytes := [0x0D, 0x0A]

/-- Two hyphens. -/
def hyphens : Bytes := [0x2D, 0x2D]

/-- Blanks in a line. -/
def isBlank (b : UInt8) : Bool := b = 0x20 || b = 0x09

/-- Reads a header line. -/
def headerOf? (line : Bytes) : Option (String × Bytes) :=
  match Cut.atFirst? (· == 0x3A) line with
  | some (name, value) =>
    let name := String.ofList (name.map fun b => Char.ofNat b.toNat)
    let value := Cut.trim isBlank value
    if Header.isToken name && Header.isValue value then some (Text.lowerAscii name, value) else none
  | none => none

/-- The lines of a block of headers, up to the first empty one; a line may end in
a line feed alone. -/
def headerLines (block : Bytes) : List Bytes :=
  ((Cut.cutAt (· == 0x0A) block).map fun line =>
    if line.getLast? = some 0x0D then line.dropLast else line).takeWhile (! ·.isEmpty)

/-- How many headers a part may have. -/
def headerLimit : Nat := 32

/-- Reads a block of headers; of several with one name the last counts. -/
def headers? (block : Bytes) : Option Headers := do
  let headers ← (headerLines block).mapM headerOf?
  if headers.length > headerLimit then none
  return headers.foldl (fun all (name, value) => Headers.set all name value) []

/-- The part with the given headers and content. -/
def partOf (headers : Headers) (content : Bytes) : Part :=
  let disposition := headers.get? "content-disposition"
  { name := disposition.bind (Disposition.parameter? "name")
    filename := disposition.bind (Disposition.parameter? "filename")
    contentType := ((headers.get? "content-type").bind Header.visibleText?).bind fun s =>
      (MediaType.parse? s).map MediaType.text
    content }

/-- Reads the parts behind a boundary, at most `count` of them. -/
def partsFrom (boundary : Bytes) : (count : Nat) → Bytes → Except ReadError (List Part)
  | 0, _ => .error .incomplete
  | count + 1, bytes => do
    if hyphens.isPrefixOf bytes then return []
    let some bytes := lineEnd.isPrefixOf? (bytes.dropWhile isBlank) | throw .incomplete
    let some (block, bytes) := Cut.atMark? (lineEnd ++ lineEnd) bytes | throw .incomplete
    let some headers := headers? (block ++ lineEnd) | throw .badHeaders
    let name := (partOf headers []).name
    let some (content, bytes) := Cut.atMark? (lineEnd ++ hyphens ++ boundary) bytes
      | throw (.incompletePart name)
    return partOf headers content :: (← partsFrom boundary count bytes)

/-- Cuts a body into its parts. What stands before the first boundary and behind
the end is left out. -/
def read (boundary body : Bytes) : Except ReadError (List Part) :=
  match Cut.atMark? (hyphens ++ boundary) body with
  | some (_, bytes) => partsFrom boundary (body.length + 1) bytes
  | none => .error .incomplete

/-- The boundary that a content type names. -/
def boundaryOf? (contentType : Option Bytes) : Option Bytes := do
  let type ← MediaType.parse? (← Header.visibleText? (← contentType))
  if type.type == "multipart" && type.subtype == "form-data" then
    return Utf8.encode (← type.parameter? "boundary")
  else none

end Multipart

namespace MultipartForm

/-- Adds a part: one with a nonempty file name is a file, any other a value; one
without a name is dropped. -/
def withPart (f : MultipartForm) (part : Multipart.Part) : MultipartForm :=
  match part.name with
  | none => f
  | some name =>
    match part.filename.filter (· != "") with
    | some filename => f.withFile name ⟨some filename, part.contentType, part.content⟩
    | none => f.withValue name (Utf8.decodeLossy part.content)

/-- How long a body may be where nothing else is said. -/
def bodyLimit : Nat := 2097152

/-- Reads the form that a request holds: the parts of its body, then the pairs of
its query. There may be a limit to the length of the body. -/
def ofBody (limit : Option Nat) (contentType : Option Bytes) (query : Option String)
    (body : Bytes) : Except FormError MultipartForm :=
  match Multipart.boundaryOf? contentType with
  | none => .error (.malformed Multipart.ReadError.noBoundary.message)
  | some boundary =>
    if limit.any (· < body.length) then .error (.malformed Multipart.ReadError.tooLong.message)
    else match Multipart.read boundary body with
    | .error e => .error (.malformed e.message)
    | .ok parts =>
      let pairs := (query.map fun q => FormPairs.read (Utf8.encode q)).getD []
      .ok (pairs.foldl (fun f (key, value) => f.withValue key value)
        (parts.foldl withPart {}))

end MultipartForm

/-- A multipart body that is being written. -/
structure MultipartWriter where
  written : Bytes := []

namespace MultipartWriter

/-- The boundary of written bodies. -/
def boundary : String := "velum-test-boundary-7MA4YWxkTrZu0gW"

/-- The content type of written bodies. -/
def contentType : String := "multipart/form-data; boundary=" ++ boundary

/-- Adds a part with the given lines behind the name of its field. -/
def part (w : MultipartWriter) (name lines : String) (content : Bytes) : MultipartWriter :=
  ⟨w.written ++ Utf8.encode ("--" ++ boundary ++ "\r\nContent-Disposition: form-data; name=\"" ++
    name ++ "\"" ++ lines ++ "\r\n\r\n") ++ content ++ Multipart.lineEnd⟩

/-- Adds a value. -/
def field (w : MultipartWriter) (name value : String) : MultipartWriter :=
  w.part name "" (Utf8.encode value)

/-- Adds a file. -/
def file (w : MultipartWriter) (name filename contentType : String) (content : Bytes) :
    MultipartWriter :=
  w.part name ("; filename=\"" ++ filename ++ "\"\r\nContent-Type: " ++ contentType) content

/-- The whole body. -/
def body (w : MultipartWriter) : Bytes :=
  w.written ++ Utf8.encode ("--" ++ boundary ++ "--\r\n")

end MultipartWriter

end Formwork
