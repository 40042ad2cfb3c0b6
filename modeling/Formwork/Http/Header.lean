import Formwork.Text.Cut
import Formwork.Text.CharClass
import Formwork.Text.Utf8

/-! # Message headers

Headers are named values in order; names are tokens in lower case, values are
octets without controls. A name may have several values.
-/

namespace Formwork

namespace Header

/-- An octet of a header value: no control but the tabulator. -/
def isValueOctet (b : UInt8) : Bool := (32 ≤ b && b != 127) || b = 9

/-- The octets make a header value. -/
def isValue (value : Bytes) : Bool := value.all isValueOctet

/-- The text of a value that holds visible ASCII characters, blanks and
tabulators only. -/
def visibleText? (value : Bytes) : Option String :=
  if value.all fun b => (32 ≤ b && b < 127) || b = 9 then
    some (String.ofList (value.map fun b => Char.ofNat b.toNat))
  else none

/-- A character of a token. -/
def isTokenChar (c : Char) : Bool :=
  CharClass.isAsciiAlnum c || "!#$%&'*+-.^_`|~".toList.contains c

/-- A nonempty sequence of token characters. -/
def isToken (s : String) : Bool := !s.isEmpty && s.toList.all isTokenChar

end Header

/-- Named values in order. -/
abbrev Headers := List (String × Bytes)

namespace Headers

/-- The values of a name in order. -/
def getAll (headers : Headers) (name : String) : List Bytes :=
  (headers.filter fun header => header.1 == name).map Prod.snd

/-- The first value of a name. -/
def get? (headers : Headers) (name : String) : Option Bytes := (headers.getAll name).head?

/-- The name has a value. -/
def contains (headers : Headers) (name : String) : Bool :=
  headers.any fun header => header.1 == name

/-- Adds a value behind the values of its name. -/
def append (headers : Headers) (name : String) (value : Bytes) : Headers :=
  headers ++ [(name, value)]

/-- Gives a name one value in place of those that it has. -/
def set (headers : Headers) (name : String) (value : Bytes) : Headers :=
  (headers.filter fun header => header.1 != name) ++ [(name, value)]

theorem getAll_append (headers : Headers) (name other : String) (value : Bytes) :
    (headers.append other value).getAll name =
      headers.getAll name ++ if other = name then [value] else [] := by
  by_cases h : other = name <;> simp [Headers.getAll, Headers.append, h]

theorem getAll_set {name other : String} (h : other ≠ name) (headers : Headers)
    (value : Bytes) : (headers.set other value).getAll name = headers.getAll name := by
  have hf : (headers.filter fun header => header.1 != other).filter (fun header => header.1 == name) =
      headers.filter fun header => header.1 == name := by
    rw [List.filter_filter]
    refine List.filter_congr fun header _ => ?_
    by_cases hn : header.1 = name
    · simp [hn, h.symm]
    · simp [hn]
  simp [Headers.getAll, Headers.set, hf, h]

theorem getAll_append_same (headers : Headers) (name : String) (values : List Bytes) :
    getAll (headers ++ values.map fun value => (name, value)) name =
      headers.getAll name ++ values := by
  have hf : (values.map fun value => (name, value)).filter (fun header => header.1 == name) =
      values.map fun value => (name, value) := by
    rw [List.filter_eq_self]
    intro header hm
    obtain ⟨value, _, rfl⟩ := List.mem_map.1 hm
    exact beq_self_eq_true name
  rw [getAll, getAll, List.filter_append, hf, List.map_append, List.map_map]
  exact congrArg _ (List.map_id values)

/-- A name that is not there has no values. -/
theorem getAll_eq_nil {headers : Headers} {name : String} (h : headers.contains name = false) :
    headers.getAll name = [] := by
  rw [getAll, List.map_eq_nil_iff, List.filter_eq_nil_iff]
  intro header hm hk
  exact List.any_eq_false.1 h header hm hk

end Headers

end Formwork
