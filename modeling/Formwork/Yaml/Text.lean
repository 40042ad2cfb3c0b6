import Formwork.Text.Utf8
import Formwork.Text.CharClass

/-! # Characters of YAML texts

A text is read after its line ends are made equal: of the five kinds of line end
three become a line feed, the line and paragraph separators stay. Lines of a
flowing scalar are folded: one line feed between two words becomes a blank, more
of them lose the first.
-/

namespace Formwork.Yaml

/-- A character that a text may hold. -/
def isAllowed (c : Char) : Bool :=
  let n := c.toNat
  n == 0x09 || n == 0x0A || n == 0x0D || (0x20 ≤ n && n ≤ 0x7E) || n == 0x85 ||
    (0xA0 ≤ n && n ≤ 0xFFFD) || 0x10000 ≤ n

/-- A blank within a line. -/
def isBlank (c : Char) : Bool := c == ' ' || c == '\t'

/-- A line end. -/
def isBreak (c : Char) : Bool := c == '\n' || c == '\u2028' || c == '\u2029'

/-- A blank or a line end. -/
def isGap (c : Char) : Bool := isBlank c || isBreak c

/-- A character of names: a letter, a digit, `_` or `-`. -/
def isNameChar (c : Char) : Bool := CharClass.isAsciiAlnum c || c == '_' || c == '-'

/-- The mark of byte order, which may stand in front of a line. -/
def byteOrderMark : Char := '\uFEFF'

/-- The text with line ends made equal. -/
def equalBreaks : List Char → List Char
  | '\r' :: '\n' :: rest => '\n' :: equalBreaks rest
  | c :: rest => (if c = '\r' || c = '\u0085' then '\n' else c) :: equalBreaks rest
  | [] => []

/-- What follows is a blank, a line end or nothing. -/
def atGap : List Char → Bool
  | [] => true
  | c :: _ => isGap c

/-- What follows is a line end or nothing. -/
def atLineEnd : List Char → Bool
  | [] => true
  | c :: _ => isBreak c

/-- What follows marks the start or the end of a document, if it stands in front
of a line. -/
def isDocumentMark : List Char → Bool
  | a :: b :: c :: rest => a == b && b == c && (a == '-' || a == '.') && atGap rest
  | _ => false

/-- Folds line ends: the first of them, and the others. -/
def folded (first : Char) (others : List Char) : List Char :=
  if first = '\n' then (if others.isEmpty then [' '] else others) else first :: others

/-- What a gap between two words contributes: its blanks if it lies in one line,
else its folded line ends. -/
def gapText (gap : List Char) : List Char :=
  match gap.dropWhile isBlank with
  | [] => gap
  | first :: others => folded first (others.filter isBreak)

/-- The characters behind the last line end of a gap, if it has one. -/
def lastLine? (gap : List Char) : Option (List Char) := (Cut.atLast? isBreak gap).map Prod.snd

/-- A tabulator stands in one of the first `indent` columns of a line that the gap
opens. -/
def tabsInIndent (indent : Nat) (gap : List Char) : Bool :=
  ((Cut.cutAt isBreak gap).drop 1).any fun line => (line.take indent).contains '\t'

end Formwork.Yaml
