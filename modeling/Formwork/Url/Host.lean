import Formwork.Codec.Percent
import Formwork.DomainName.Ascii
import Formwork.Net.Address

/-! # Hosts of addresses

The host of a special scheme is a domain name in ASCII or an IPv4 address, which
may come as one to four numbers in base ten, eight or sixteen; a host in brackets
is an IPv6 address; the host of any other scheme is opaque text.
-/

namespace Formwork.Url

/-- The host of an address. -/
inductive Host where
  | domain (name : String)
  | ipv4 (value : Nat)
  | ipv6 (groups : List Nat)
deriving DecidableEq

/-- Control characters and everything beyond ASCII are written as octets. -/
def isControlOctet (b : UInt8) : Bool := b < 0x20 || b ≥ 0x7F

/-- Octets written as they stand, except for the given ASCII characters. -/
def keepsAllBut (escaped : String) (b : UInt8) : Bool :=
  !isControlOctet b && !escaped.toList.contains (Char.ofNat b.toNat)

/-- A text with the given characters, controls and everything beyond ASCII
percent-encoded. -/
def escape (escaped : String) (cs : List Char) : String :=
  String.ofList ((Percent.encode (keepsAllBut escaped) (Utf8.encodeChars cs)).map
    fun b => Char.ofNat b.toNat)

namespace Host

/-- The hexadecimal digits of a number, without leading zeros. -/
def hexText (n : Nat) : String := String.ofList (Nat.toDigits 16 n)

/-- The longest leftmost run of two or more zero groups: where it begins and its
length. -/
def zeroRun? (groups : List Nat) : Option (Nat × Nat) :=
  let runs := (List.range groups.length).map fun i =>
    (i, ((groups.drop i).takeWhile (· == 0)).length)
  runs.foldl (fun best run =>
    let longest := match best with
      | some (_, length) => length
      | none => 1
    if longest < run.2 then some run else best) none

/-- Groups with colons between them. -/
def groupsText (groups : List Nat) : String := Text.join ":" (groups.map hexText)

/-- A host as text. -/
def text : Host → String
  | domain name => name
  | ipv4 value => Text.join "." ([24, 16, 8, 0].map fun shift =>
      String.ofList (Decimal.digits (value / Nat.pow 2 shift % 256)))
  | ipv6 groups =>
    let inside := match zeroRun? groups with
      | some (start, length) =>
        groupsText (groups.take start) ++ "::" ++ groupsText (groups.drop (start + length))
      | none => groupsText groups
    "[" ++ inside ++ "]"

/-- The characters that a domain name may not hold. -/
def isForbiddenInDomain (c : Char) : Bool :=
  c.toNat ≤ 0x20 || c.toNat == 0x7F || "#/:<>?@[\\]^|%".toList.contains c

/-- The characters that an opaque host may not hold. -/
def isForbiddenInOpaque (c : Char) : Bool := "\x00\t\n\r #/:<>?@[\\]^|".toList.contains c

/-- What the numeral of an IPv4 address says: nothing, or a number of any size. -/
def ipv4Number? (part : List Char) : Option Nat :=
  let read (base : Nat) (digits : List Char) : Option Nat :=
    digits.foldlM (fun n c => do
      let d ← Hex.value? c
      if d < base then some (n * base + d) else none) 0
  match part with
  | [] => none
  | '0' :: 'x' :: digits => read 16 digits
  | '0' :: 'X' :: digits => read 16 digits
  | '0' :: d :: digits => read 8 (d :: digits)
  | digits => read 10 digits

/-- The parts between full stops, without an empty last one. -/
def dottedParts (name : List Char) : List (List Char) :=
  let parts := Cut.cutAt (· == '.') name
  if parts.getLast? == some [] then parts.dropLast else parts

/-- The last part of a name is a number, so the name must be an IPv4 address. -/
def endsInNumber (name : List Char) : Bool :=
  match (dottedParts name).getLast? with
  | some part => (!part.isEmpty && part.all CharClass.isAsciiDigit) || (ipv4Number? part).isSome
  | none => false

/-- Reads an IPv4 address: the last number fills the octets that the others leave. -/
def ipv4Of? (name : List Char) : Option Nat := do
  let numbers ← (dottedParts name).mapM ipv4Number?
  let last ← numbers.getLast?
  let octets := numbers.dropLast
  if octets.length > 3 || octets.any (255 < ·) || last ≥ Nat.pow 256 (4 - octets.length) then none
  return last + octets.foldr (fun n (acc : Nat) => (n * Nat.pow 2 24 + acc / 256)) 0

/-- Reads what stands in brackets. -/
def bracketed? (inside : List Char) : Option Host :=
  match inside.reverse with
  | ']' :: reversed =>
    match Net.ipv6? reversed.reverse with
    | some (groups, []) => some (ipv6 groups)
    | _ => none
  | _ => none

/-- Reads the host of a special scheme. -/
def special? : List Char → Option Host
  | '[' :: inside => bracketed? inside
  | cs => do
    let decoded ← Utf8.decode? (Percent.decode (Utf8.encodeChars cs))
    let name ← DomainName.toAscii? ⟨true⟩ decoded
    if name.isEmpty || name.toList.any isForbiddenInDomain then none
    else if endsInNumber name.toList then (ipv4Of? name.toList).map ipv4
    else some (domain name)

/-- Reads the host of any other scheme. -/
def opaque? : List Char → Option Host
  | '[' :: inside => bracketed? inside
  | cs => if cs.any isForbiddenInOpaque then none else some (domain (escape "" cs))

end Host

end Formwork.Url
