import Formwork.Text.Decimal
import Formwork.Text.Hex
import Formwork.Text.Cut

/-! # Internet addresses as text

Readers for IPv4 addresses (four decimal numbers below 256, no leading zeros),
IPv6 addresses (groups of up to four hexadecimal digits, one run of groups left
out as `::`, the last two groups possibly as an IPv4 address) and socket
addresses (an IPv4 address or a bracketed IPv6 address, a colon and a port).
Each reader gives what it read and what follows; the `is...` tests ask for the
whole text.
-/

namespace Formwork.Net

/-- Reads one number of an IPv4 address. -/
def octet? (cs : List Char) : Option (Nat × List Char) :=
  let (digits, rest) := cs.span CharClass.isAsciiDigit
  if digits.length > 3 ∨ (digits.length > 1 ∧ digits.head? = some '0') then none
  else match Decimal.natOf? digits with
    | some n => if n < 256 then some (n, rest) else none
    | none => none

/-- Reads `expected` in front. -/
def expect? (expected : Char) : List Char → Option (List Char)
  | c :: rest => if c = expected then some rest else none
  | [] => none

/-- Reads an IPv4 address. -/
def ipv4? (cs : List Char) : Option (List Nat × List Char) := do
  let (a, rest) ← octet? cs
  let (b, rest) ← octet? (← expect? '.' rest)
  let (c, rest) ← octet? (← expect? '.' rest)
  let (d, rest) ← octet? (← expect? '.' rest)
  return ([a, b, c, d], rest)

/-- Reads one group of an IPv6 address. -/
def group? (cs : List Char) : Option (Nat × List Char) :=
  let (digits, rest) := cs.span fun c => (Hex.value? c).isSome
  if digits.isEmpty ∨ digits.length > 4 then none
  else some (digits.foldl (fun n c => n * 16 + (Hex.value? c).getD 0) 0, rest)

/-- Reads at most `limit` groups with colons between them, `first` saying that no
colon stands before the next one. Gives the groups, whether the last two came as
an IPv4 address, and what follows. -/
def groups : (limit : Nat) → (first : Bool) → List Char → List Nat × Bool × List Char
  | 0, _, cs => ([], false, cs)
  | limit + 1, first, cs =>
    let start? := if first then some cs else expect? ':' cs
    let embedded? := if limit ≥ 1 then start?.bind ipv4? else none
    match embedded? with
    | some ([a, b, c, d], rest) => ([a * 256 + b, c * 256 + d], true, rest)
    | _ =>
      match start?.bind group? with
      | some (group, rest) =>
        let (others, embedded, after) := groups limit false rest
        (group :: others, embedded, after)
      | none => ([], false, cs)

/-- Reads an IPv6 address as eight groups. -/
def ipv6? (cs : List Char) : Option (List Nat × List Char) :=
  let (front, embedded, rest) := groups 8 true cs
  if front.length = 8 then some (front, rest)
  else if embedded then none
  else do
    let rest ← expect? ':' rest
    let rest ← expect? ':' rest
    let (back, _, rest) := groups (7 - front.length) true rest
    return (front ++ List.replicate (8 - front.length - back.length) 0 ++ back, rest)

/-- The text is an IPv4 address. -/
def isIpv4 (cs : List Char) : Bool :=
  match ipv4? cs with
  | some (_, []) => true
  | _ => false

/-- The text is an IPv6 address. -/
def isIpv6 (cs : List Char) : Bool :=
  match ipv6? cs with
  | some (_, []) => true
  | _ => false

/-- The text is a number below `bound`, in digits. -/
def isNumberBelow (bound : Nat) (cs : List Char) : Bool :=
  match Decimal.natOf? cs with
  | some n => n < bound
  | none => false

/-- The text is a colon and a port. -/
def isPort : List Char → Bool
  | ':' :: digits => isNumberBelow 65536 digits
  | _ => false

/-- The text is a socket address. An IPv6 address may name a zone by number. -/
def isSocketAddress (s : String) : Bool :=
  match ipv4? s.toList with
  | some (_, rest) => isPort rest
  | none =>
    match s.toList with
    | '[' :: inside =>
      match ipv6? inside with
      | some (_, ']' :: rest) => isPort rest
      | some (_, '%' :: rest) =>
        match Cut.atFirst? (· == ']') rest with
        | some (zone, after) => isNumberBelow 4294967296 zone && isPort after
        | none => false
      | _ => false
    | _ => false

end Formwork.Net
