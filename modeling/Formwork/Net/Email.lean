import Formwork.DomainName.Ascii
import Formwork.Net.Address

/-! # Email addresses

A bare address is a user, an `@` and a domain: labels between full stops, an
internet address in brackets, or a name that becomes one of these in ASCII. The
text of an address is a bare address, or one in angle brackets behind a display
text without such brackets.
-/

namespace Formwork.Email

/-- A letter or digit. Two letters beyond ASCII count, since their other cases
are an ASCII `s` and `k`. -/
def isAlnum (c : Char) : Bool :=
  CharClass.isAsciiAlnum c || c == '\u017F' || c == '\u212A'

/-- A character of a user. -/
def isUserChar (c : Char) : Bool := isAlnum c || ".!#$%&'*+/=?^_`\x7b|\x7d~-".toList.contains c

/-- Letters, digits and inner hyphens, at most 63 of them. -/
def isLabel (label : List Char) : Bool :=
  label.length ≤ 63 && label.all (fun c => isAlnum c || c == '-') &&
    label.head?.any isAlnum && label.getLast?.any isAlnum

/-- Labels between full stops. -/
def isDotted (domain : List Char) : Bool := (Cut.cutAt (· == '.') domain).all isLabel

/-- A character of what may stand in brackets. -/
def isLiteralChar (c : Char) : Bool :=
  isAlnum c || c == ':' || c == '.' || ('[' ≤ c && c ≤ '`')

/-- What stands between the closing bracket at the end and the first opening
bracket from which only literal characters follow. -/
def literal? (domain : List Char) : Option (List Char) :=
  match domain.reverse with
  | ']' :: inside =>
    let run := inside.takeWhile isLiteralChar
    (Cut.atLast? (· == '[') run).bind fun (front, _) =>
      if front.isEmpty then none else some front.reverse
  | _ => none

/-- A domain that needs no mapping. -/
def isPlainDomain (domain : List Char) : Bool :=
  isDotted domain || (literal? domain).any fun text => Net.isIpv4 text || Net.isIpv6 text

/-- A domain as it stands or in ASCII. -/
def isDomain (domain : List Char) : Bool :=
  isPlainDomain domain ||
    (DomainName.toAscii? ⟨false⟩ (String.ofList domain)).any fun ascii =>
      isPlainDomain ascii.toList

/-- A user of at most 64 characters and a domain of at most 255, cut at the last
`@`. -/
def isBare (cs : List Char) : Bool :=
  match Cut.atLast? (· == '@') cs with
  | some (user, domain) =>
    user.length ≤ 64 && domain.length ≤ 255 && !user.isEmpty && user.all isUserChar &&
      isDomain domain
  | none => false

/-- The characters are one address: a bare one as `bare` tells them, or such a one in
angle brackets behind a display text without angle brackets. -/
def isOneBy (bare : List Char → Bool) (cs : List Char) : Bool :=
  match cs.reverse with
  | '>' :: body =>
    match Cut.atLast? (· == '<') body.reverse with
    | some (display, address) => display.all (fun c => c != '<' && c != '>') && bare address
    | none => false
  | _ => bare cs

/-- A text, blanks at its ends aside, is one address as `bare` tells bare ones. -/
def isAddressBy (bare : List Char → Bool) (s : String) : Bool :=
  isOneBy bare (Cut.trim CharClass.isSpace s.toList)

/-- A text, blanks at its ends aside, is one address. -/
def isAddress (s : String) : Bool := isAddressBy isBare s

end Formwork.Email
