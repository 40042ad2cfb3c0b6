import Formwork.Text.Cut
import Formwork.Text.Utf8

/-! # Media types of contents

The media type of a content is found from its first octets alone: markup tags
after blanks, then signatures in front, then containers that name their kind
eight octets in, then the brands of a file type box; what is left is text unless
it holds a binary control octet.
-/

namespace Formwork.Sniff

/-- How many octets of a content are looked at. -/
def windowSize : Nat := 512

/-- The media type of unknown binary contents. -/
def binaryType : String := "application/octet-stream"

/-- The media type of unknown texts. -/
def textType : String := "text/plain; charset=utf-8"

/-- Signatures in front of a content, in the order in which they are tried. -/
def signatures : List (Bytes × String) := [
  (Utf8.encode "%PDF-", "application/pdf"),
  (Utf8.encode "%!PS-Adobe-", "application/postscript"),
  ([0xFE, 0xFF], "text/plain; charset=utf-16be"),
  ([0xFF, 0xFE], "text/plain; charset=utf-16le"),
  ([0xEF, 0xBB, 0xBF], textType),
  ([0x00, 0x00, 0x01, 0x00], "image/x-icon"),
  ([0x00, 0x00, 0x02, 0x00], "image/x-icon"),
  (Utf8.encode "BM", "image/bmp"),
  (Utf8.encode "GIF87a", "image/gif"),
  (Utf8.encode "GIF89a", "image/gif"),
  ([0x89, 0x50, 0x4E, 0x47, 0x0D, 0x0A, 0x1A, 0x0A], "image/png"),
  ([0xFF, 0xD8, 0xFF], "image/jpeg"),
  (Utf8.encode "ID3", "audio/mpeg"),
  (Utf8.encode "OggS\x00", "application/ogg"),
  (Utf8.encode "MThd\x00\x00\x00\x06", "audio/midi"),
  ([0x1A, 0x45, 0xDF, 0xA3], "video/webm"),
  ([0x00, 0x01, 0x00, 0x00], "font/ttf"),
  (Utf8.encode "OTTO", "font/otf"),
  (Utf8.encode "ttcf", "font/collection"),
  (Utf8.encode "wOFF", "font/woff"),
  (Utf8.encode "wOF2", "font/woff2"),
  ([0x1F, 0x8B, 0x08], "application/x-gzip"),
  ([0x50, 0x4B, 0x03, 0x04], "application/zip"),
  (Utf8.encode "Rar!\x1A\x07\x00", "application/x-rar-compressed"),
  (Utf8.encode "Rar!\x1A\x07\x01\x00", "application/x-rar-compressed"),
  ([0x37, 0x7A, 0xBC, 0xAF, 0x27, 0x1C], "application/x-7z-compressed"),
  (Utf8.encode "\x00asm", "application/wasm")]

/-- Containers: what stands in front, what stands eight octets in, and the media
type. -/
def containers : List (Bytes × Bytes × String) := [
  (Utf8.encode "RIFF", Utf8.encode "WEBPVP", "image/webp"),
  (Utf8.encode "RIFF", Utf8.encode "AVI ", "video/avi"),
  (Utf8.encode "RIFF", Utf8.encode "WAVE", "audio/wave"),
  (Utf8.encode "FORM", Utf8.encode "AIFF", "audio/aiff")]

/-- Tags that mark a page when a blank or `>` follows. -/
def pageTags : List Bytes :=
  ["<!doctype html", "<html", "<head", "<script", "<iframe", "<h1", "<div", "<font", "<table",
    "<a", "<style", "<title", "<b", "<body", "<br", "<p", "<!--"].map Utf8.encode

/-- Blanks in front of markup. -/
def isBlank (b : UInt8) : Bool := b = 0x09 || b = 0x0A || b = 0x0C || b = 0x0D || b = 0x20

/-- A control octet that texts do not hold. -/
def isBinary (b : UInt8) : Bool :=
  b ≤ 0x08 || b = 0x0B || (0x0E ≤ b && b ≤ 0x1A) || (0x1C ≤ b && b ≤ 0x1F)

/-- The content begins with `head`, which is in lower case, in any case. -/
def beginsWith (head content : Bytes) : Bool :=
  head.isPrefixOf (content.map Bytes.toLower)

/-- The content begins with a tag and a blank or `>` behind it. -/
def isPageTag (content tag : Bytes) : Bool :=
  beginsWith tag content &&
    match content.drop tag.length with
    | b :: _ => b = 0x20 || b = 0x3E
    | [] => false

/-- The number that four octets say, the first being the most significant. -/
def bigEndian (bytes : Bytes) : Nat := bytes.foldl (fun n b => n * 256 + b.toNat) 0

/-- Where a file type box of a given size holds brands: the major one at 8, the
compatible ones from 16 on. -/
def brandOffsets (boxSize : Nat) : List Nat :=
  ((List.range ((boxSize - 8 + 3) / 4)).map fun i => 8 + 4 * i).filter (· != 12)

/-- The content begins with a whole file type box, one of whose brands is an MP4
brand. -/
def isMp4 (content : Bytes) : Bool :=
  let boxSize := bigEndian (content.take 4)
  12 ≤ content.length && boxSize ≤ content.length && boxSize % 4 = 0 &&
    (content.drop 4).take 4 = Utf8.encode "ftyp" &&
    (brandOffsets boxSize).any fun offset => (content.drop offset).take 3 = Utf8.encode "mp4"

/-- The media type found from the octets in the window. -/
def typeOfWindow (window : Bytes) : String :=
  let markup := window.dropWhile isBlank
  if pageTags.any (isPageTag markup) then "text/html; charset=utf-8"
  else if beginsWith (Utf8.encode "<?xml") markup then "text/xml; charset=utf-8"
  else match signatures.find? fun (head, _) => head.isPrefixOf window with
    | some (_, type) => type
    | none =>
      match containers.find? fun (head, kind, _) =>
          head.isPrefixOf window && kind.isPrefixOf (window.drop 8) with
      | some (_, _, type) => type
      | none =>
        if isMp4 window then "video/mp4"
        else if window.any isBinary then binaryType
        else textType

/-- The media type of a content. -/
def mediaType (content : Bytes) : String := typeOfWindow (content.take windowSize)

end Formwork.Sniff
