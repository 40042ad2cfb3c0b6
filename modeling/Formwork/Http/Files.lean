import Formwork.Codec.Percent
import Formwork.FileTree
import Formwork.Http.Message
import Formwork.Text.Decimal

/-! # Serving files

A request for a file is answered with its content, or with one range of it on
demand; the type follows from the ending of its name. A directory is answered with
the file `index.html` in it, or, where the path lacks its slash, by sending the
client to the path that has one. No path leads out of the directory that is served.
-/

namespace Formwork.Files

/-- Types by the ending of names. -/
def typeTable : List (String × String) :=
  [("7z", "application/x-7z-compressed"), ("aac", "audio/aac"), ("ai", "application/postscript"),
    ("atom", "application/atom+xml"), ("avi", "video/x-msvideo"), ("avif", "image/avif"),
    ("bin", "application/octet-stream"), ("bmp", "image/bmp"), ("bz2", "application/x-bzip2"),
    ("c", "text/plain"), ("conf", "text/plain"), ("cpp", "text/plain"), ("css", "text/css"),
    ("csv", "text/csv"), ("doc", "application/msword"),
    ("docx", "application/vnd.openxmlformats-officedocument.wordprocessingml.document"),
    ("eot", "application/vnd.ms-fontobject"), ("eps", "application/postscript"),
    ("epub", "application/epub+zip"), ("exe", "application/octet-stream"),
    ("flac", "audio/flac"), ("flv", "video/x-flv"), ("gif", "image/gif"),
    ("gz", "application/gzip"), ("h", "text/plain"), ("htm", "text/html"), ("html", "text/html"),
    ("ico", "image/x-icon"), ("ics", "text/calendar"), ("ini", "text/plain"),
    ("jar", "application/java-archive"), ("jpeg", "image/jpeg"), ("jpg", "image/jpeg"),
    ("js", "text/javascript"), ("json", "application/json"), ("jsonld", "application/ld+json"),
    ("jxl", "image/jxl"), ("log", "text/plain"), ("m3u8", "application/x-mpegURL"),
    ("m4a", "audio/m4a"), ("m4v", "video/x-m4v"), ("map", "application/json"),
    ("markdown", "text/markdown"), ("md", "text/markdown"), ("mid", "audio/mid"),
    ("midi", "audio/mid"), ("mjs", "text/javascript"), ("mov", "video/quicktime"),
    ("mp3", "audio/mpeg"), ("mp4", "video/mp4"), ("mpeg", "video/mpeg"), ("mpg", "video/mpeg"),
    ("odt", "application/vnd.oasis.opendocument.text"), ("oga", "audio/ogg"), ("ogg", "audio/ogg"),
    ("ogv", "video/ogg"), ("otf", "font/otf"), ("pdf", "application/pdf"), ("png", "image/png"),
    ("ppt", "application/vnd.ms-powerpoint"),
    ("pptx", "application/vnd.openxmlformats-officedocument.presentationml.presentation"),
    ("ps", "application/postscript"), ("py", "text/plain"), ("rar", "application/x-rar-compressed"),
    ("rs", "text/x-rust"), ("rss", "application/rss+xml"), ("rtf", "application/rtf"),
    ("sh", "application/x-sh"), ("sql", "application/x-sql"), ("svg", "image/svg+xml"),
    ("swf", "application/x-shockwave-flash"), ("tar", "application/x-tar"), ("tif", "image/tiff"),
    ("tiff", "image/tiff"), ("toml", "text/x-toml"), ("ts", "video/vnd.dlna.mpeg-tts"),
    ("tsv", "text/tab-separated-values"), ("ttf", "font/ttf"), ("txt", "text/plain"),
    ("wasm", "application/wasm"), ("wav", "audio/wav"), ("weba", "audio/webm"),
    ("webm", "video/webm"), ("webmanifest", "application/manifest+json"), ("webp", "image/webp"),
    ("woff", "application/font-woff"), ("woff2", "font/woff2"), ("xhtml", "application/xhtml+xml"),
    ("xls", "application/vnd.ms-excel"),
    ("xlsx", "application/vnd.openxmlformats-officedocument.spreadsheetml.sheet"),
    ("xml", "text/xml"), ("yaml", "text/x-yaml"), ("yml", "text/x-yaml"),
    ("zip", "application/zip")]

/-- The ending of a name: what stands behind its last full stop, unless that is its
first character. -/
def ending? (name : String) : Option String :=
  match Cut.atLast? (· == '.') name.toList with
  | some (_ :: _, ending) => some (Text.lowerAscii (String.ofList ending))
  | _ => none

/-- The type of a file with the given name. -/
def typeOf (name : String) : String :=
  ((ending? name).bind (typeTable.lookup ·)).getD "application/octet-stream"

/-! ## Ranges -/

/-- A range of octets: from a place on, or up to another place, or a number of
octets at the end. -/
inductive Range where
  | between (first : Nat) (last : Option Nat)
  | tail (count : Nat)
deriving DecidableEq

/-- Reads the range between commas. -/
def range? (s : String) : Option Range :=
  match Text.split '-' (Text.trim s) with
  | ["", count] => ((Decimal.natOf? count.toList).filter (· ≠ 0)).map .tail
  | [first, ""] => (Decimal.natOf? first.toList).map (.between · none)
  | [first, last] => do
    return .between (← Decimal.natOf? first.toList) (some (← Decimal.natOf? last.toList))
  | _ => none

/-- Reads the ranges that a header asks for. -/
def ranges? (header : String) : Option (List Range) :=
  (Text.afterHead? "bytes=" header).bind fun s => (Text.split ',' s).mapM range?

/-- The first and last place of a range in a file of the given size. -/
def Range.within? (size : Nat) : Range → Option (Nat × Nat)
  | between first last =>
    let last := min (last.getD (size - 1)) (size - 1)
    if first ≤ last ∧ first < size then some (first, last) else none
  | tail count => if count ≤ size ∧ 0 < size then some (size - count, size - 1) else none

/-- The header that describes a range. -/
def rangeHeader (text : String) : String × Bytes :=
  ("content-range", Utf8.encode ("bytes " ++ text))

/-- The response that a range cannot be served. -/
def unsatisfiable (headers : Headers) (size : Nat) (reason : String) : Response :=
  ⟨416, headers ++ [rangeHeader ("*/" ++ toString size)], Utf8.encode reason⟩

/-- The response with a file, or with the range of it that was asked for. -/
def found (name : String) (content : Bytes) (range : Option String) : Response :=
  let headers : Headers :=
    [("content-type", Utf8.encode (typeOf name)), ("accept-ranges", Utf8.encode "bytes")]
  let size := content.length
  match range with
  | none => ⟨200, headers, content⟩
  | some header =>
    match (ranges? header).bind (·.mapM (Range.within? size)) with
    | none => unsatisfiable headers size ""
    | some [(first, last)] =>
      let text := toString first ++ "-" ++ toString last ++ "/" ++ toString size
      ⟨206, headers ++ [rangeHeader text], (content.drop first).take (last - first + 1)⟩
    | some _ => unsatisfiable headers size "Cannot serve multipart range requests"

/-! ## Places -/

/-- The names that a path leads along, if it is a text and does not lead upwards. -/
def place? (path : String) : Option (List String) := do
  let cs := path.toList.dropWhile (· == '/')
  let decoded ← Utf8.decode? (Percent.decode (Utf8.encodeChars cs))
  let names := FileTree.names decoded
  if Text.hasHead "/" decoded || names.contains ".." then none else return names

/-- The answer to a request whose path is relative to `directory`. -/
def respond (tree : FileTree) (directory : String) (request : Request) : Response :=
  let path := request.uri.path
  if request.method ≠ "GET" ∧ request.method ≠ "HEAD" then
    ⟨405, [("allow", Utf8.encode "GET,HEAD")], []⟩
  else
    match place? path with
    | none => ⟨404, [], []⟩
    | some names =>
      let place := FileTree.names directory ++ names
      let range := (request.headers.get? "range").bind Header.visibleText?
      let serve (place : List String) : Response :=
        match tree.file? place with
        | some content => found (place.getLastD "") content range
        | none => ⟨if names.any (·.toList.contains '\x00') then 500 else 404, [], []⟩
      if !tree.isDirectory place then serve place
      else if Text.hasTail "/" path then serve (place ++ ["index.html"])
      else
        let location := { request.uri with path := path ++ "/" }
        ⟨307, [("location", Utf8.encode location.text)], []⟩

end Formwork.Files
