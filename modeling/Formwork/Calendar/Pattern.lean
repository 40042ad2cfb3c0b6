import Formwork.Calendar.Date
import Formwork.Text.Cut

/-! # Date patterns

A template names the parts of a date by words, as in `day/month/year`. It is
translated, word by word, into a pattern with specifiers such as `%d/%m/%Y`,
where a literal percent sign is doubled; and a pattern is a list of items. Items
write a date (`write`) and read one (`read?`): a reader takes numbers of limited
width after optional blanks, treats a run of blanks as any run of blanks, and
compares all other text. Parts that a pattern does not name are those of the
first moment of year 0.
-/

namespace Formwork.Calendar

/-- A part of a date and time. -/
inductive Component where
  | year | month | day | hour | minute | second
deriving DecidableEq

/-- The components in the order in which their words are translated. -/
def Component.all : List Component := [.year, .month, .day, .hour, .minute, .second]

/-- The word that names a component in a template. -/
def Component.word : Component → List Char
  | .year => "year".toList
  | .month => "month".toList
  | .day => "day".toList
  | .hour => "hour".toList
  | .minute => "minute".toList
  | .second => "second".toList

/-- The letter of a component in a pattern. -/
def Component.letter : Component → Char
  | .year => 'Y'
  | .month => 'm'
  | .day => 'd'
  | .hour => 'H'
  | .minute => 'M'
  | .second => 'S'

/-- The component of a letter. -/
def Component.ofLetter? (c : Char) : Option Component :=
  Component.all.find? fun component => component.letter == c

/-- Replaces every occurrence of a nonempty `mark`, from left to right. -/
def replaceAll (mark new : List Char) : List Char → List Char
  | [] => []
  | c :: cs =>
    match mark.isPrefixOf? (c :: cs) with
    | some rest =>
      if rest.length < (c :: cs).length then new ++ replaceAll mark new rest
      else c :: replaceAll mark new cs
    | none => c :: replaceAll mark new cs
termination_by cs => cs.length
decreasing_by
  · assumption
  · exact Nat.lt_succ_self cs.length
  · exact Nat.lt_succ_self cs.length

/-- The pattern of a template: percent signs are doubled, then each word in turn
becomes its specifier. -/
def patternChars (template : List Char) : List Char :=
  Component.all.foldl (fun cs component => replaceAll component.word ['%', component.letter] cs)
    (replaceAll ['%'] ['%', '%'] template)

/-- The pattern of a template, as text. -/
def patternText (template : String) : String := String.ofList (patternChars template.toList)

/-- An item of a pattern. -/
inductive Item where
  /-- Text that stands for itself. -/
  | literal (text : List Char)
  /-- A run of blanks. -/
  | blanks (text : List Char)
  /-- A number. -/
  | number (component : Component)
  /-- A specifier that does not exist; nothing matches it. -/
  | unknown
deriving DecidableEq

/-- The items of a pattern. -/
def items : List Char → List Item
  | [] => []
  | '%' :: '%' :: rest => .literal ['%'] :: items rest
  | '%' :: c :: rest =>
    match Component.ofLetter? c with
    | some component => .number component :: items rest
    | none => .unknown :: items rest
  | ['%'] => [.unknown]
  | c :: rest =>
    if CharClass.isSpace c then
      match items rest with
      | .blanks text :: others => .blanks (c :: text) :: others
      | others => .blanks [c] :: others
    else .literal [c] :: items rest

/-- The component's characters in a date. -/
def Component.write (d : DateTime) : Component → List Char
  | .year => yearChars d.date.year
  | .month => twoDigits d.date.month
  | .day => twoDigits d.date.day
  | .hour => twoDigits d.time.hour
  | .minute => twoDigits d.time.minute
  | .second => twoDigits d.time.second

/-- Writes a date by the items of a pattern. -/
def write (d : DateTime) (items : List Item) : List Char :=
  items.flatMap fun
    | .literal text => text
    | .blanks text => text
    | .number component => component.write d
    | .unknown => []

/-- The parts read so far. -/
structure Parts where
  year : Option Int := none
  month : Option Int := none
  day : Option Int := none
  hour : Option Int := none
  minute : Option Int := none
  second : Option Int := none
  nanosecond : Option Nat := none
deriving DecidableEq

/-- Records a part; one that is present already has to agree. -/
def agree? (held : Option Int) (value : Int) : Option (Option Int) :=
  match held with
  | none => some (some value)
  | some other => if other = value then some held else none

/-- The values that a component may have. -/
def Component.admits : Component → Int → Bool
  | .year, n => -2147483648 ≤ n && n ≤ 2147483647
  | .month, n => 1 ≤ n && n ≤ 12
  | .day, n => 1 ≤ n && n ≤ 31
  | .hour, n => 0 ≤ n && n ≤ 23
  | .minute, n => 0 ≤ n && n ≤ 59
  | .second, n => 0 ≤ n && n ≤ 60

/-- Records the value of a component. -/
def Parts.record? (parts : Parts) (component : Component) (value : Int) : Option Parts :=
  if component.admits value then
    match component with
    | .year => (agree? parts.year value).map fun year => { parts with year }
    | .month => (agree? parts.month value).map fun month => { parts with month }
    | .day => (agree? parts.day value).map fun day => { parts with day }
    | .hour => (agree? parts.hour value).map fun hour => { parts with hour }
    | .minute => (agree? parts.minute value).map fun minute => { parts with minute }
    | .second => (agree? parts.second value).map fun second => { parts with second }
  else none

/-- Reads up to `width` digits of a number below `2 ^ 63`, at least one. -/
def digits? (width : Option Nat) (cs : List Char) : Option (Nat × List Char) :=
  let run := cs.takeWhile CharClass.isAsciiDigit
  let taken := match width with
    | some n => run.take n
    | none => run
  match Decimal.natOf? taken with
  | some n => if (n : Int) ≤ Word64.maxSigned then some (n, cs.drop taken.length) else none
  | none => none

/-- Reads the number of a component. A year of more than four digits needs a
sign. -/
def Component.read? (component : Component) (cs : List Char) : Option (Int × List Char) :=
  match component, cs.dropWhile CharClass.isSpace with
  | .year, '-' :: rest => (digits? none rest).map fun (n, after) => (-(n : Int), after)
  | .year, '+' :: rest => (digits? none rest).map fun (n, after) => (n, after)
  | .year, rest => (digits? (some 4) rest).map fun (n, after) => (n, after)
  | _, rest => (digits? (some 2) rest).map fun (n, after) => (n, after)

/-- Reads the items of a pattern one after the other. -/
def readItems? (parts : Parts) (cs : List Char) : List Item → Option (Parts × List Char)
  | [] => some (parts, cs)
  | .literal text :: items => (text.isPrefixOf? cs).bind fun rest => readItems? parts rest items
  | .blanks _ :: items => readItems? parts (cs.dropWhile CharClass.isSpace) items
  | .number component :: items =>
    (component.read? cs).bind fun (value, rest) =>
      (parts.record? component value).bind fun parts => readItems? parts rest items
  | .unknown :: _ => none

/-- The moment with the parts read, the missing ones taken from the first moment
of year 0. -/
def Parts.toDateTime? (parts : Parts) : Option DateTime :=
  (Date.ofParts? (parts.year.getD 0) (parts.month.getD 1).toNat (parts.day.getD 1).toNat).map
    fun date =>
      ⟨date, ⟨(parts.hour.getD 0).toNat, (parts.minute.getD 0).toNat, (parts.second.getD 0).toNat,
        parts.nanosecond.getD 0⟩⟩

/-- Reads a whole text by the items of a pattern. -/
def read? (items : List Item) (s : String) : Option DateTime :=
  match readItems? {} s.toList items with
  | some (parts, []) => parts.toDateTime?
  | _ => none

/-- The items of a template. -/
def templateItems (template : String) : List Item := items (patternChars template.toList)

/-- Reads a fraction of a second: nothing, or a point and digits, of which nine
count. -/
def fraction? (cs : List Char) : Option (Nat × List Char) :=
  match cs with
  | '.' :: rest =>
    let run := rest.takeWhile CharClass.isAsciiDigit
    let taken := run.take 9
    (Decimal.natOf? taken).map fun n => (n * Nat.pow 10 (9 - taken.length), rest.drop run.length)
  | rest => some (0, rest)

/-- Reads a moment as `isoText` writes it. Blanks may stand before any number
and at the end, and numbers may have fewer digits. -/
def ofIsoText? (s : String) : Option DateTime := do
  let parts := items "%Y-%m-%dT%H:%M:%S".toList
  let (parts, rest) ← readItems? {} s.toList parts
  let (nanosecond, rest) ← fraction? rest
  if rest.all CharClass.isSpace then
    Parts.toDateTime? { parts with nanosecond := some nanosecond }
  else none

end Formwork.Calendar
