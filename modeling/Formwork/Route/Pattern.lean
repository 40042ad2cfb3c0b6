import Formwork.Codec.Percent
import Formwork.Dict
import Formwork.Text.Cut

/-! # Path patterns

A pattern holds characters, parameters that stand for one segment of a path, and
at its end perhaps one parameter that stands for all that is left. A parameter
ends its segment. Two patterns conflict where both are read up to the same place
and one of them goes on with all that is left while the other has a parameter, or
where they differ in the names of parameters at most. Of several patterns that
match a path, the one counts that has a character where the other has a parameter.
-/

namespace Formwork

/-- A part of a path pattern. -/
inductive PatternPart where
  | char (c : Char)
  | segment (name : String)
  | rest (name : String)
deriving DecidableEq

/-- A path pattern. -/
abbrev PathPattern := List PatternPart

namespace PathPattern

/-- Two equal braces side by side stand for a brace that opens and closes nothing;
such a one is marked. -/
def unescaped : List Char → List (Char × Bool)
  | '\x7b' :: '\x7b' :: cs => ('\x7b', true) :: unescaped cs
  | '\x7d' :: '\x7d' :: cs => ('\x7d', true) :: unescaped cs
  | c :: cs => (c, false) :: unescaped cs
  | [] => []

/-- Reads the name of a parameter behind its first character, up to the closing
brace. -/
def nameTail? : List (Char × Bool) → Option (List Char × List (Char × Bool))
  | [] => none
  | (c, escaped) :: cs =>
    if c = '\x7d' && !escaped then some ([], cs)
    else if c = '*' || c = '/' then none
    else (nameTail? cs).map fun (name, after) => (c :: name, after)

/-- Reads a parameter behind its opening brace. A star makes it one for all that is
left, which has to be the end of the pattern; any other ends its segment. -/
def parameter? (cs : List (Char × Bool)) : Option (PatternPart × List (Char × Bool)) :=
  match cs with
  | [] => none
  | (first, _) :: cs =>
    if first = '\x7d' then none
    else
      match nameTail? cs with
      | none => none
      | some (name, after) =>
        if first = '*' then
          if name.isEmpty || !after.isEmpty then none
          else some (.rest (String.ofList name), after)
        else if after.head?.all (·.1 == '/') then
          some (.segment (String.ofList (first :: name)), after)
        else none

/-- The parts of a pattern. -/
def parts? : Nat → List (Char × Bool) → Option PathPattern
  | 0, _ => none
  | _ + 1, [] => some []
  | fuel + 1, (c, escaped) :: cs =>
    if escaped || !(c = '\x7b' || c = '\x7d') then (parts? fuel cs).map (.char c :: ·)
    else if c = '\x7d' then none
    else
      match parameter? cs with
      | some (part, after) => (parts? fuel after).map (part :: ·)
      | none => none

/-- The part is a parameter for one segment. -/
def isSegment : PatternPart → Bool
  | .segment _ => true
  | _ => false

/-- The most parameters for segments that a pattern may have. -/
def segmentLimit : Nat := 25

/-- A segment of the pattern begins with a colon or a star, which once were the
marks of parameters. -/
def hasOldMark (cs : List Char) : Bool :=
  (Cut.cutAt (· == '/') cs).any fun segment =>
    segment.head? == some ':' || segment.head? == some '*'

/-- Reads a pattern. -/
def parse? (s : String) : Option PathPattern := do
  let cs := s.toList
  if cs.head? ≠ some '/' || hasOldMark cs then none
  let parts ← parts? (cs.length + 1) (unescaped cs)
  if (parts.filter isSegment).length ≤ segmentLimit then return parts else none

/-- The patterns cannot stand side by side. -/
def conflicts : PathPattern → PathPattern → Bool
  | [], [] => true
  | .char a :: p, .char b :: q => a == b && conflicts p q
  | .segment _ :: p, .segment _ :: q => conflicts p q
  | .segment _ :: _, .rest _ :: _ => true
  | .rest _ :: _, .segment _ :: _ => true
  | .rest _ :: _, .rest _ :: _ => true
  | _, _ => false

/-- Where the patterns differ first, this one has a character and the other a
parameter. -/
def precedes : PathPattern → PathPattern → Bool
  | .char a :: p, .char b :: q => a == b && precedes p q
  | .segment _ :: p, .segment _ :: q => precedes p q
  | .char _ :: _, .segment _ :: _ => true
  | .char _ :: _, .rest _ :: _ => true
  | _, _ => false

/-- The parameters of a path that matches the pattern, with the characters that
each stands for, at least one. -/
def match? : PathPattern → List Char → Option (List (String × List Char))
  | [], [] => some []
  | .char a :: p, c :: cs => if a = c then match? p cs else none
  | .segment name :: p, cs =>
    let value := cs.takeWhile (· != '/')
    if value.isEmpty then none
    else (match? p (cs.drop value.length)).map ((name, value) :: ·)
  | .rest name :: p, cs => if cs.isEmpty || !p.isEmpty then none else some [(name, cs)]
  | _, _ => none

/-- The names of the parameters in order. -/
def names (p : PathPattern) : List String :=
  p.filterMap fun
    | .char _ => none
    | .segment name => some name
    | .rest name => some name

/-- A match gives every parameter a value, in order. -/
theorem names_of_match {p : PathPattern} {cs : List Char} {values : List (String × List Char)}
    (h : p.match? cs = some values) : values.map Prod.fst = p.names := by
  induction p generalizing cs values with
  | nil => cases cs <;> simp [match?] at h; subst h; rfl
  | cons part p ih =>
    cases part with
    | char a =>
      cases cs with
      | nil => simp [match?] at h
      | cons c cs =>
        simp only [match?] at h
        split at h
        · simpa [names] using ih h
        · cases h
    | segment name =>
      simp only [match?] at h
      split at h
      · cases h
      · obtain ⟨rest, hr, rfl⟩ := Option.map_eq_some_iff.1 h
        simpa [names] using ih hr
    | rest name =>
      simp only [match?] at h
      split at h
      · cases h
      · rename_i hc
        cases h
        simp at hc
        simp [names, hc.2]

end PathPattern

/-- Values by pattern. -/
structure Router (α : Type) where
  entries : List (PathPattern × α) := []

namespace Router

variable {α : Type}

/-- Adds a pattern, unless it is none or conflicts with another. -/
def insert? (r : Router α) (pattern : String) (value : α) : Option (Router α) := do
  let p ← PathPattern.parse? pattern
  if r.entries.any fun entry => entry.1.conflicts p then none
  else return ⟨r.entries ++ [(p, value)]⟩

/-- Of two matches the one whose pattern precedes the other's. -/
def better (best : Option (PathPattern × List (String × List Char) × α))
    (next : PathPattern × List (String × List Char) × α) :
    Option (PathPattern × List (String × List Char) × α) :=
  match best with
  | some other => if next.1.precedes other.1 then some next else some other
  | none => some next

/-- The value of the pattern that matches a path, and the parameters. -/
def find? (r : Router α) (path : String) : Option (List (String × List Char) × α) :=
  let hits := r.entries.filterMap fun (p, value) =>
    (p.match? path.toList).map fun params => (p, params, value)
  (hits.foldl better none).map Prod.snd

end Router

/-- The values of parameters with their escapes resolved, the last of each name. If
one of them is no text, there are none. -/
def decodedParams (params : List (String × List Char)) : Dict String :=
  let decoded := params.mapM fun (name, value) =>
    (Utf8.decode? (Percent.decode (Utf8.encodeChars value))).map (name, ·)
  Dict.ofList (decoded.getD [])

end Formwork
