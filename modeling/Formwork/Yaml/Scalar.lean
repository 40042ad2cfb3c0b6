import Formwork.Text.Hex
import Formwork.Yaml.Text

/-! # Scalars

A scalar is written plain, in quotation marks of either kind, or as a block of
lines behind `|` or `>`. Each reader takes the characters at the scalar and gives
its content with the characters behind it.
-/

namespace Formwork.Yaml

/-- The content of a scalar, and whether it was written plain; only a plain one
can stand for something else than a text. -/
structure Scalar where
  content : String
  isPlain : Bool
deriving DecidableEq

namespace Scalar

/-- The scalar that stands where nothing is written. -/
def absent : Scalar := ⟨"", true⟩

/-! ## Plain scalars -/

/-- The character ends a plain word, given what follows it. -/
def endsWord (inFlow : Bool) (c : Char) (rest : List Char) : Bool :=
  isGap c || (c == ':' && atGap rest) || (inFlow && ",[]\x7b\x7d".toList.contains c)

/-- A colon in a flow collection before an indicator. -/
def isStrayColon (inFlow : Bool) (c : Char) (rest : List Char) : Bool :=
  inFlow && c == ':' &&
    match rest with
    | d :: _ => ",?[]\x7b\x7d".toList.contains d
    | [] => false

/-- Reads a plain word. -/
def word? (inFlow : Bool) : List Char → Option (List Char × List Char)
  | [] => some ([], [])
  | c :: rest =>
    if isGap c then some ([], c :: rest)
    else if isStrayColon inFlow c rest then none
    else if endsWord inFlow c rest then some ([], c :: rest)
    else (word? inFlow rest).map fun (cs, after) => (c :: cs, after)

/-- What is left of a plain scalar behind a word: its content, the characters
behind it, and whether a line end was passed. -/
structure Continuation where
  content : List Char
  rest : List Char
  passedBreak : Bool

/-- Nothing more. -/
def Continuation.stop (rest : List Char) (passedBreak : Bool) : Continuation :=
  ⟨[], rest, passedBreak⟩

/-- The words of a plain scalar behind its first one. A line that continues it
outside flow collections is indented by at least `indent`. -/
def words? (inFlow : Bool) (indent : Nat) : Nat → List Char → Option Continuation
  | 0, cs => some (.stop cs false)
  | fuel + 1, cs =>
    let gap := cs.takeWhile isGap
    let after := cs.dropWhile isGap
    let line := lastLine? gap
    if gap.isEmpty then some (.stop cs false)
    else if tabsInIndent indent gap then none
    else if !inFlow && (line.any fun blanks => blanks.length < indent) then some (.stop after true)
    else if (line.any List.isEmpty && isDocumentMark after) || after.head? = some '#' then
      some (.stop after line.isSome)
    else
      match word? inFlow after with
      | none => none
      | some ([], _) => some (.stop after line.isSome)
      | some (word, after) =>
        (words? inFlow indent fuel after).map fun tail =>
          { tail with content := gapText gap ++ word ++ tail.content }

/-- Reads a plain scalar. -/
def plain? (inFlow : Bool) (indent : Nat) (cs : List Char) : Option Continuation := do
  let (word, after) ← word? inFlow cs
  let tail ← words? inFlow indent after.length after
  return { tail with content := word ++ tail.content }

/-! ## Quoted scalars -/

/-- The character that one letter behind a backslash stands for. -/
def escaped? : Char → Option Char
  | '0' => some '\x00'
  | 'a' => some '\x07'
  | 'b' => some '\x08'
  | 't' => some '\t'
  | '\t' => some '\t'
  | 'n' => some '\n'
  | 'v' => some '\x0b'
  | 'f' => some '\x0c'
  | 'r' => some '\r'
  | 'e' => some '\x1b'
  | ' ' => some ' '
  | '"' => some '"'
  | '/' => some '/'
  | '\\' => some '\\'
  | 'N' => some '\u0085'
  | '_' => some '\u00a0'
  | 'L' => some '\u2028'
  | 'P' => some '\u2029'
  | _ => none

/-- The number of hexadecimal digits that a letter behind a backslash calls for. -/
def escapeWidth? : Char → Option Nat
  | 'x' => some 2
  | 'u' => some 4
  | 'U' => some 8
  | _ => none

/-- Reads what follows a backslash within a line. -/
def escape? : List Char → Option (Char × List Char)
  | [] => none
  | c :: rest =>
    match escapeWidth? c with
    | some width => do
      let digits := rest.take width
      if digits.length < width then none
      let n ← Hex.number? 16 digits
      if n.isValidChar then return (Char.ofNat n, rest.drop width) else none
    | none => (escaped? c).map (·, rest)

/-- A gap in a quoted scalar does not lead to a document mark. -/
def joins (gap after : List Char) : Bool :=
  !((lastLine? gap).any List.isEmpty && isDocumentMark after)

/-- Reads a scalar up to its closing apostrophe; two apostrophes stand for one. -/
def apostrophed? : Nat → List Char → Option (List Char × List Char)
  | 0, _ => none
  | _ + 1, [] => none
  | fuel + 1, c :: rest =>
    if c = '\'' then
      match rest with
      | '\'' :: rest => (apostrophed? fuel rest).map fun (cs, after) => ('\'' :: cs, after)
      | _ => some ([], rest)
    else if isGap c then
      let gap := c :: rest.takeWhile isGap
      let rest := rest.dropWhile isGap
      if joins gap rest then
        (apostrophed? fuel rest).map fun (cs, after) => (gapText gap ++ cs, after)
      else none
    else (apostrophed? fuel rest).map fun (cs, after) => (c :: cs, after)

/-- Reads a scalar up to its closing quotation mark. A backslash at a line end
joins the lines without a blank. -/
def quoted? : Nat → List Char → Option (List Char × List Char)
  | 0, _ => none
  | _ + 1, [] => none
  | fuel + 1, c :: rest =>
    if c = '"' then some ([], rest)
    else if isGap c then
      let gap := c :: rest.takeWhile isGap
      let rest := rest.dropWhile isGap
      if joins gap rest then
        (quoted? fuel rest).map fun (cs, after) => (gapText gap ++ cs, after)
      else none
    else if c = '\\' then
      if rest.head?.any isBreak then
        let gap := rest.takeWhile isGap
        let rest := rest.dropWhile isGap
        if joins gap rest then
          (quoted? fuel rest).map fun (cs, after) => ((gap.drop 1).filter isBreak ++ cs, after)
        else none
      else do
        let (d, rest) ← escape? rest
        let (cs, after) ← quoted? fuel rest
        return (d :: cs, after)
    else (quoted? fuel rest).map fun (cs, after) => (c :: cs, after)

/-! ## Block scalars -/

/-- What becomes of the line ends at the end of a block. -/
inductive Chomping where
  | strip
  | clip
  | keep
deriving DecidableEq

/-- The indicators behind `|` or `>`: what becomes of the line ends at the end,
and by how much the lines are indented, if it is said. -/
structure BlockHeader where
  chomping : Chomping
  increment : Option Nat

/-- Reads a sign of chomping. -/
def chomping? : List Char → Option (Chomping × List Char)
  | '+' :: rest => some (.keep, rest)
  | '-' :: rest => some (.strip, rest)
  | _ => none

/-- Reads an indentation from one to nine; a zero is refused. -/
def increment? : List Char → Option (Option Nat × List Char)
  | [] => some (none, [])
  | c :: rest =>
    if c = '0' then none
    else if CharClass.isAsciiDigit c then some (some (c.toNat - '0'.toNat), rest)
    else some (none, c :: rest)

/-- Without the rest of a line that holds a comment at most; the line end stays. -/
def restOfLine? (cs : List Char) : Option (List Char) :=
  let cs := cs.dropWhile isBlank
  let cs := if cs.head? = some '#' then cs.dropWhile fun c => !isBreak c else cs
  if atLineEnd cs then some cs else none

/-- Reads the indicators of a block and its first line end. -/
def BlockHeader.read? (cs : List Char) : Option (BlockHeader × List Char) := do
  let (header, cs) ← match chomping? cs with
    | some (chomping, cs) => do
      let (increment, cs) ← increment? cs
      pure ((⟨chomping, increment⟩ : BlockHeader), cs)
    | none => do
      let (increment, cs) ← increment? cs
      match increment, chomping? cs with
      | some _, some (chomping, cs) => pure (⟨chomping, increment⟩, cs)
      | _, _ => pure (⟨.clip, increment⟩, cs)
  let cs ← restOfLine? cs
  return (header, cs.drop 1)

/-- A line of a block without its indentation: its characters, the line end, and
the line ends of the empty lines behind it. -/
structure BlockLine where
  chars : List Char
  lineEnd : List Char
  emptyLines : List Char

/-- The line begins with a blank. -/
def BlockLine.isSpaced (line : BlockLine) : Bool := line.chars.head?.any isBlank

/-- What stands between two lines of a block. -/
def between (literal : Bool) (first second : BlockLine) : List Char :=
  if literal || first.isSpaced || second.isSpaced || first.lineEnd ≠ ['\n'] then
    first.lineEnd ++ first.emptyLines
  else if first.emptyLines.isEmpty then [' ']
  else first.emptyLines

/-- The content of the lines of a block. -/
def blockText (literal : Bool) (chomping : Chomping) : List BlockLine → List Char
  | [] => []
  | [last] =>
    last.chars ++
      match chomping with
      | .strip => []
      | .clip => last.lineEnd
      | .keep => last.lineEnd ++ last.emptyLines
  | line :: next :: lines =>
    line.chars ++ between literal line next ++ blockText literal chomping (next :: lines)

/-- Reads empty lines in front of a line: their line ends, the widest indentation
met, the column reached, and the characters there. At most `limit` blanks of a
line belong to its indentation; a tabulator may not stand among them. -/
def emptyLines? (limit : Option Nat) :
    Nat → List Char → Option (List Char × Nat × Nat × List Char)
  | 0, _ => none
  | fuel + 1, cs =>
    let blanks := (cs.takeWhile (· == ' ')).length
    let column := match limit with
      | some n => min n blanks
      | none => blanks
    let inside := match limit with
      | some n => decide (column < n)
      | none => true
    match cs.drop column with
    | [] => some ([], column, column, [])
    | c :: rest =>
      if inside && c == '\t' then none
      else if isBreak c then
        (emptyLines? limit fuel rest).map fun (breaks, widest, reached, after) =>
          (c :: breaks, max column widest, reached, after)
      else some ([], column, column, c :: rest)

/-- Reads the lines of a block indented by `indent`, from the column reached. -/
def blockLines? (indent : Nat) : Nat → Nat → List Char → Option (List BlockLine × List Char)
  | 0, _, _ => none
  | fuel + 1, column, cs =>
    if column = indent && !cs.isEmpty then do
      let chars := cs.takeWhile fun c => !isBreak c
      match cs.dropWhile fun c => !isBreak c with
      | [] => return ([⟨chars, [], []⟩], [])
      | lineEnd :: rest =>
        let (breaks, _, column, rest) ← emptyLines? (some indent) (rest.length + 1) rest
        let (lines, after) ← blockLines? indent fuel column rest
        return (⟨chars, [lineEnd], breaks⟩ :: lines, after)
    else some ([], cs)

/-- The content of a block: leading line ends, then lines. A block without lines
keeps its line ends only on demand. -/
def blockContent (literal : Bool) (chomping : Chomping) (leading : List Char) :
    List BlockLine → List Char
  | [] => if chomping = .keep then leading else []
  | lines => leading ++ blockText literal chomping lines

/-- Reads a block scalar behind its indicator, inside a collection indented by
`parent`, or `none` outside all collections. Gives the column reached, too. -/
def block? (literal : Bool) (parent : Option Nat) (cs : List Char) :
    Option (List Char × List Char) := do
  let (header, cs) ← BlockHeader.read? cs
  let limit := header.increment.map (parent.getD 0 + ·)
  let (leading, widest, column, cs) ← emptyLines? limit (cs.length + 1) cs
  let least := match parent with
    | some n => n + 1
    | none => 1
  let indent := limit.getD (max widest least)
  let (lines, cs) ← blockLines? indent (cs.length + 1) column cs
  return (blockContent literal header.chomping leading lines, cs)

end Scalar

end Formwork.Yaml
