import Formwork.Text.Decimal
import Formwork.Yaml.Scalar

/-! # Lexemes

`Lexeme.ofText?` cuts a text into lexemes. Block collections show in the text by
their columns only; the lexemes that open and close them are made up here. A
collection of pairs may show late: where a colon is met, the lexeme of the key
belongs in front of what was read since, so every place where a key may begin is
remembered until it is too far back.
-/

namespace Formwork.Yaml

/-- The smallest parts of a text. -/
inductive Lexeme where
  | version (major minor : Nat)
  | shorthand (handle head : String)
  | documentStart
  | documentEnd
  | blockSequence
  | blockMapping
  | blockEnd
  | flowSequence
  | flowSequenceEnd
  | flowMapping
  | flowMappingEnd
  | entry
  | comma
  | key
  | value
  | anchor (name : String)
  | alias (name : String)
  | tag (handle suffix : String)
  | scalar (scalar : Scalar)
  | textEnd
deriving DecidableEq

/-- A place in a text. -/
structure Position where
  line : Nat := 0
  column : Nat := 0
  index : Nat := 0

/-- The place behind a character. -/
def Position.pass (p : Position) (c : Char) : Position :=
  if isBreak c then ⟨p.line + 1, 0, p.index + 1⟩ else ⟨p.line, p.column + 1, p.index + 1⟩

/-- A place where the key of a pair may begin: which lexeme stands there, and
whether it has to be a key. -/
structure PossibleKey where
  lexeme : Nat
  position : Position
  required : Bool

/-- A key stands in one line and is at most this long. -/
def keyLengthLimit : Nat := 1024

/-- A key that begins there cannot end here any more. -/
def PossibleKey.isStale (k : PossibleKey) (p : Position) : Bool :=
  k.position.line < p.line || k.position.index + keyLengthLimit < p.index

/-- What has been read: the characters that are left, the lexemes, the columns of
the open block collections, the possible key of the innermost collection, those
of the collections around an open flow collection, and whether a key may begin
here. -/
structure Lexer where
  rest : List Char
  position : Position := {}
  lexemes : Array Lexeme := #[]
  indents : List Nat := []
  key : Option PossibleKey := none
  outerKeys : List (Option PossibleKey) := []
  keyAllowed : Bool := true

namespace Lexer

/-- A flow collection is open. -/
def inFlow (s : Lexer) : Bool := !s.outerKeys.isEmpty

/-- Moves to a later rest of the characters. -/
def moveTo (s : Lexer) (rest : List Char) : Lexer :=
  { s with
    position := (s.rest.take (s.rest.length - rest.length)).foldl Position.pass s.position
    rest := rest }

/-- Adds a lexeme. -/
def push (s : Lexer) (l : Lexeme) : Lexer := { s with lexemes := s.lexemes.push l }

/-- Puts a lexeme in front of the one with the given number. -/
def insertBefore (s : Lexer) (number : Nat) (l : Lexeme) : Lexer :=
  let (before, after) := (s.lexemes.extract 0 number, s.lexemes.extract number s.lexemes.size)
  { s with lexemes := before ++ #[l] ++ after }

/-- Passes blanks, comments and line ends. A tabulator does not count as a blank
where a key may begin in a block. Behind a line end a key may begin. -/
def skipGap : Nat → Lexer → Lexer
  | 0, s => s
  | fuel + 1, s =>
    let marked := s.position.column == 0 && s.rest.head? == some byteOrderMark
    let rest := if marked then s.rest.drop 1 else s.rest
    let rest := rest.dropWhile fun c => c == ' ' || (c == '\t' && (s.inFlow || !s.keyAllowed))
    let rest := if rest.head? = some '#' then rest.dropWhile fun c => !isBreak c else rest
    if rest.head?.any isBreak then
      let s := s.moveTo (rest.drop 1)
      skipGap fuel { s with keyAllowed := s.keyAllowed || !s.inFlow }
    else s.moveTo rest

/-- Forgets possible keys that lie too far back; a required one must not. -/
def dropStale? (s : Lexer) : Option Lexer :=
  let fresh (k : Option PossibleKey) : Option (Option PossibleKey) :=
    match k with
    | some k =>
      if !k.isStale s.position then some (some k)
      else if k.required then none
      else some none
    | none => some none
  do return { s with key := ← fresh s.key, outerKeys := ← s.outerKeys.mapM fresh }

/-- Forgets the possible key of the innermost collection; it must not be
required. -/
def dropKey? (s : Lexer) : Option Lexer :=
  if s.key.any PossibleKey.required then none else some { s with key := none }

/-- Remembers that a key may begin here. -/
def rememberKey? (s : Lexer) : Option Lexer :=
  if s.keyAllowed then do
    let s ← s.dropKey?
    let required := !s.inFlow && s.indents.head? == some s.position.column
    return { s with key := some ⟨s.lexemes.size, s.position, required⟩ }
  else some s

/-- Opens a block collection at a column right of the open ones. The lexeme goes
in front of the one with the given number, or to the end. -/
def openBlock (s : Lexer) (column : Nat) (number : Option Nat) (l : Lexeme) : Lexer :=
  if !s.inFlow && s.indents.head?.all (· < column) then
    let s := { s with indents := column :: s.indents }
    match number with
    | some n => s.insertBefore n l
    | none => s.push l
  else s

/-- Closes the block collections right of a column, or all of them. -/
def closeBlocks (s : Lexer) (column : Option Nat) : Lexer :=
  if s.inFlow then s
  else
    let closed := s.indents.takeWhile fun n => column.all (· < n)
    { s with
      indents := s.indents.drop closed.length
      lexemes := s.lexemes ++ Array.replicate closed.length .blockEnd }

/-- Forbids or allows that a key begins here. -/
def allowKey (s : Lexer) (allowed : Bool) : Lexer := { s with keyAllowed := allowed }

/-- Adds a lexeme of `width` characters. -/
def take (s : Lexer) (width : Nat) (l : Lexeme) : Lexer := (s.moveTo (s.rest.drop width)).push l

/-! ## Directives, anchors and tags -/

/-- Reads digits, nine at most. -/
def versionPart? (cs : List Char) : Option (Nat × List Char) :=
  let (digits, rest) := cs.span CharClass.isAsciiDigit
  if digits.length ≤ 9 then (Decimal.natOf? digits).map (·, rest) else none

/-- Reads the handle of a tag: an exclamation mark, and if a name and another mark
follow, these too. -/
def handle? : List Char → Option (List Char × List Char)
  | '!' :: rest =>
    let (name, after) := rest.span isNameChar
    match after with
    | '!' :: after => some ('!' :: name ++ ['!'], after)
    | _ => some ('!' :: name, after)
  | _ => none

/-- A character of a tag; `wide` admits the indicators of flow collections. -/
def isTagChar (wide : Bool) (c : Char) : Bool :=
  isNameChar c || ";/?:@&=+$.!~*'()".toList.contains c || (wide && ",[]".toList.contains c)

/-- How many octets a character has whose first octet is given. -/
def octetCount? (b : Nat) : Option Nat :=
  if b < 0x80 then some 1
  else if 0xC0 ≤ b ∧ b < 0xE0 then some 2
  else if 0xE0 ≤ b ∧ b < 0xF0 then some 3
  else if 0xF0 ≤ b ∧ b < 0xF8 then some 4
  else none

/-- Reads an octet written as a percent sign and two hexadecimal digits. -/
def octet? : List Char → Option (Nat × List Char)
  | '%' :: a :: b :: rest => (Hex.number? 16 [a, b]).map (·, rest)
  | _ => none

/-- Reads a number of octets that continue a character. -/
def laterOctets? : Nat → List Char → Option (Bytes × List Char)
  | 0, cs => some ([], cs)
  | n + 1, cs => do
    let (b, cs) ← octet? cs
    if b / 64 ≠ 2 then none
    let (bytes, cs) ← laterOctets? n cs
    return (UInt8.ofNat b :: bytes, cs)

/-- Reads the characters of a tag. -/
def tagChars? (wide : Bool) : Nat → List Char → Option (Bytes × List Char)
  | 0, cs => some ([], cs)
  | fuel + 1, cs =>
    match cs with
    | [] => some ([], [])
    | c :: rest =>
      if c = '%' then do
        let (b, rest) ← octet? cs
        let (bytes, rest) ← laterOctets? ((← octetCount? b) - 1) rest
        let (more, after) ← tagChars? wide fuel rest
        return (UInt8.ofNat b :: bytes ++ more, after)
      else if isTagChar wide c then
        (tagChars? wide fuel rest).map fun (more, after) => (Utf8.encodeChar c ++ more, after)
      else some ([], cs)

/-- Reads the characters of a tag, one at least. -/
def tagText? (wide : Bool) (cs : List Char) : Option (String × List Char) := do
  let (bytes, rest) ← tagChars? wide cs.length cs
  if bytes.isEmpty then none else return (Utf8.decodeLossy bytes, rest)

/-- Reads a directive behind its percent sign, up to the end of its line. -/
def directive? (cs : List Char) : Option (Lexeme × List Char) := do
  let (name, cs) := cs.span isNameChar
  let cs := cs.dropWhile isBlank
  let (lexeme, cs) ←
    if name = "YAML".toList then do
      let (major, cs) ← versionPart? cs
      match cs with
      | '.' :: cs => do
        let (minor, cs) ← versionPart? cs
        pure (Lexeme.version major minor, cs)
      | _ => none
    else if name = "TAG".toList then do
      let (handle, cs) ← handle? cs
      if handle.length > 1 ∧ handle.getLast? ≠ some '!' then none
      if !(cs.head?.any isBlank) then none
      let (head, cs) ← tagText? true (cs.dropWhile isBlank)
      if !atGap cs then none
      pure (Lexeme.shorthand (String.ofList handle) head, cs)
    else none
  let cs ← Scalar.restOfLine? cs
  return (lexeme, cs.drop 1)

/-- Reads the name of an anchor. -/
def anchorName? (cs : List Char) : Option (String × List Char) :=
  let (name, rest) := cs.span isNameChar
  if !name.isEmpty && (atGap rest || rest.head?.any fun c => "?:,]\x7d%@`".toList.contains c) then
    some (String.ofList name, rest)
  else none

/-- Reads a tag behind its exclamation mark `!`: verbatim in angle brackets, or a
handle and a suffix, or a suffix to the handle `!`; alone it stands for itself. -/
def tagParts? (cs : List Char) : Option (Lexeme × List Char) :=
  match cs with
  | '<' :: rest => do
    let (address, rest) ← tagText? true rest
    match rest with
    | '>' :: rest => some (.tag "" address, rest)
    | _ => none
  | _ => do
    let (name, after) := cs.span isNameChar
    match after with
    | '!' :: rest => do
      let (suffix, rest) ← tagText? false rest
      return (.tag (String.ofList ('!' :: name ++ ['!'])) suffix, rest)
    | _ => do
      let (bytes, rest) ← tagChars? false after.length after
      let suffix := String.ofList name ++ Utf8.decodeLossy bytes
      return (if suffix.isEmpty then .tag "" "!" else .tag "!" suffix, rest)

/-! ## Steps -/

/-- The character can begin a plain scalar, given what follows it. -/
def beginsPlain (inFlow : Bool) (c : Char) (rest : List Char) : Bool :=
  !(isGap c || "-?:,[]\x7b\x7d#&*!|>'\"%@`".toList.contains c) ||
    (c == '-' && !(rest.head?.any isBlank)) ||
    (!inFlow && (c == '?' || c == ':') && !atGap rest)

/-- Reads a mark in column zero: it closes all blocks. -/
def mark? (s : Lexer) (rest : List Char) (l : Lexeme) : Option Lexer := do
  let s ← (s.closeBlocks none).dropKey?
  return ((s.allowKey false).moveTo rest).push l

/-- Opens a flow collection. -/
def openFlow? (s : Lexer) (l : Lexeme) : Option Lexer := do
  let s ← s.rememberKey?
  return (({ s with key := none, outerKeys := s.key :: s.outerKeys }).allowKey true).take 1 l

/-- Closes a flow collection. -/
def closeFlow? (s : Lexer) (l : Lexeme) : Option Lexer := do
  let s ← s.dropKey?
  let s := match s.outerKeys with
    | key :: outer => { s with key := key, outerKeys := outer }
    | [] => s
  return (s.allowKey false).take 1 l

/-- Reads an indicator that may open a block collection at its column. -/
def indicator? (s : Lexer) (opening l : Lexeme) (allowed : Bool) : Option Lexer := do
  if !s.inFlow && !s.keyAllowed then none
  let s ← (s.openBlock s.position.column none opening).dropKey?
  return (s.allowKey allowed).take 1 l

/-- Reads a colon: behind a possible key it makes that a key. -/
def value? (s : Lexer) : Option Lexer :=
  match s.key with
  | some k =>
    let s := (s.insertBefore k.lexeme .key).openBlock k.position.column (some k.lexeme) .blockMapping
    some (({ s with key := none }.allowKey false).take 1 .value)
  | none =>
    if !s.inFlow && !s.keyAllowed then none
    else
      let s := s.openBlock s.position.column none .blockMapping
      some ((s.allowKey !s.inFlow).take 1 .value)

/-- Adds a lexeme that may be the first of a key and ends before `rest`. -/
def part? (s : Lexer) (l : Lexeme) (rest : List Char) : Option Lexer := do
  let s ← s.rememberKey?
  return ((s.allowKey false).moveTo rest).push l

/-- Adds a scalar with the given content. -/
def scalar (content : List Char) (isPlain : Bool) : Lexeme :=
  .scalar ⟨String.ofList content, isPlain⟩

/-- Reads the lexeme that begins with the character `c`. -/
def read? (s : Lexer) (c : Char) (rest : List Char) : Option Lexer :=
  let inFlow := s.inFlow
  if s.position.column = 0 && c = '%' then do
    let (l, rest) ← directive? rest
    s.mark? rest l
  else if s.position.column = 0 && isDocumentMark s.rest then
    s.mark? (s.rest.drop 3) (if c = '-' then .documentStart else .documentEnd)
  else if c = '[' then s.openFlow? .flowSequence
  else if c = '\x7b' then s.openFlow? .flowMapping
  else if c = ']' then s.closeFlow? .flowSequenceEnd
  else if c = '\x7d' then s.closeFlow? .flowMappingEnd
  else if c = ',' then do
    let s ← s.dropKey?
    return (s.allowKey true).take 1 .comma
  else if c = '-' && atGap rest then s.indicator? .blockSequence .entry true
  else if c = '?' && (inFlow || atGap rest) then s.indicator? .blockMapping .key !inFlow
  else if c = ':' && (inFlow || atGap rest) then s.value?
  else if c = '*' then do
    let (name, rest) ← anchorName? rest
    s.part? (.alias name) rest
  else if c = '&' then do
    let (name, rest) ← anchorName? rest
    s.part? (.anchor name) rest
  else if c = '!' then do
    let (l, rest) ← tagParts? rest
    if atGap rest || (inFlow && rest.head? = some ',') then s.part? l rest else none
  else if (c = '|' || c = '>') && !inFlow then do
    let s ← s.dropKey?
    let (content, rest) ← Scalar.block? (c == '|') s.indents.head? rest
    return ((s.allowKey true).moveTo rest).push (scalar content false)
  else if c = '\'' then do
    let (content, rest) ← Scalar.apostrophed? (rest.length + 1) rest
    s.part? (scalar content false) rest
  else if c = '"' then do
    let (content, rest) ← Scalar.quoted? (rest.length + 1) rest
    s.part? (scalar content false) rest
  else if beginsPlain inFlow c rest then do
    let tail ← Scalar.plain? inFlow (match s.indents.head? with
      | some n => n + 1
      | none => 0) s.rest
    let s ← s.part? (scalar tail.content true) tail.rest
    return s.allowKey tail.passedBreak
  else none

/-- Reads lexemes up to the end of the text. -/
def run? : Nat → Lexer → Option (List Lexeme)
  | 0, _ => none
  | fuel + 1, s => do
    let s ← (s.skipGap (s.rest.length + 1)).dropStale?
    let s := s.closeBlocks (some s.position.column)
    match s.rest with
    | [] => do
      let s ← (s.closeBlocks none).dropKey?
      return (s.push .textEnd).lexemes.toList
    | c :: rest => run? fuel (← s.read? c rest)

end Lexer

/-- Cuts a text into lexemes; the last of them is the end of the text. -/
def Lexeme.ofText? (s : String) : Option (List Lexeme) :=
  if s.toList.all isAllowed then
    let cs := match equalBreaks s.toList with
      | c :: rest => if c = byteOrderMark then rest else c :: rest
      | [] => []
    Lexer.run? (cs.length + 1) { rest := cs }
  else none

end Formwork.Yaml
