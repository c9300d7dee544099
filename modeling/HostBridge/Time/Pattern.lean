import HostBridge.Time.Calendar
import HostBridge.Text.Uppercase
import HostBridge.Number.Binary64

/-!
# Date patterns

A pattern is a text with conversions such as `%Y` or `%-H`, filled in from a moment. Names and some whole texts
depend on the place. Between the percent sign and the letter may stand flags, a width, and a letter that asks for
another calendar or other digits, of which there are none here. A conversion that means nothing stands for itself.
-/

namespace HostBridge.Time

/-- The names that a place has for parts of times. -/
structure Names where
  /-- The days of the week, from Sunday, in full. -/
  days : List String
  /-- The same in short. -/
  shortDays : List String
  /-- The months, from January, in full. -/
  months : List String
  /-- The same in short. -/
  shortMonths : List String
  /-- The half of the day before noon. -/
  morning : String
  /-- The half after noon. -/
  afternoon : String

/-- The first three letters of names. -/
def inShort (names : List String) : List String := names.map fun name => String.ofList (name.toList.take 3)

/-- The names where no language has been chosen. -/
def Names.english : Names :=
  let days := ["Sunday", "Monday", "Tuesday", "Wednesday", "Thursday", "Friday", "Saturday"]
  let months := ["January", "February", "March", "April", "May", "June", "July", "August", "September", "October",
    "November", "December"]
  { days, shortDays := inShort days, months, shortMonths := inShort months, morning := "AM", afternoon := "PM" }

/-- A name of a list. -/
def named (names : List String) (index : Nat) : List Char :=
  ((names[index]?).getD "").toList

/-- With what a conversion is filled up, if a flag says so. -/
inductive Padding where
  | usual
  | nothing
  | blanks
  | zeros
deriving DecidableEq, Repr

/-- What may stand between the percent sign and the letter of a conversion. -/
structure Options where
  /-- With what it is filled up. -/
  padding : Padding
  /-- Is it written in capitals? -/
  capitals : Bool
  /-- Is it written in another case than usual? -/
  otherCase : Bool
  /-- Its least width. -/
  width : Nat
  /-- The letter that asks for another calendar or other digits. -/
  variant? : Option Char
deriving DecidableEq, Repr

/-- Nothing stands between the percent sign and the letter. -/
def Options.none : Options :=
  { padding := .usual, capitals := false, otherCase := false, width := 0, variant? := .none }

/-- What a letter stands for. -/
inductive Conversion where
  /-- A number of at least so many digits. -/
  | number (digits : Nat) (n : Int)
  /-- A number that is filled up with blanks unless a flag says otherwise. -/
  | blankNumber (digits : Nat) (n : Int)
  /-- A name, whose other case is capitals. -/
  | name (text : List Char)
  /-- A mark in capitals, whose other case is small letters. -/
  | mark (text : List Char)
  /-- A text that has no other case and no capitals. -/
  | verbatim (text : List Char)
  /-- The distance from universal time. -/
  | offset (seconds : Int)
  /-- A text made of several parts. -/
  | compound (text : List Char)
deriving DecidableEq, Repr

/-- A piece of a pattern. -/
inductive PatternPiece where
  | literal (c : Char)
  /-- A conversion as written, its options and its letter. -/
  | conversion (written : List Char) (options : Options) (letter : Char)
  /-- A conversion that the pattern ends before. -/
  | unfinished (written : List Char) (options : Options)
deriving DecidableEq, Repr

namespace Options

/-- Read the flags. -/
def readFlags (o : Options) : List Char → Options × List Char
  | '_' :: rest => readFlags { o with padding := .blanks } rest
  | '-' :: rest => readFlags { o with padding := .nothing } rest
  | '0' :: rest => readFlags { o with padding := .zeros } rest
  | '^' :: rest => readFlags { o with capitals := true } rest
  | '#' :: rest => readFlags { o with otherCase := true } rest
  | cs => (o, cs)

/-- Read the width. -/
def readWidth (o : Options) (cs : List Char) : Options × List Char :=
  let ds := cs.takeWhile Char.isDigit
  ({ o with width := ds.foldl (fun n c => 10 * n + (c.toNat - '0'.toNat)) 0 }, cs.dropWhile Char.isDigit)

/-- Read the letter for another calendar or other digits. -/
def readVariant (o : Options) : List Char → Options × List Char
  | 'E' :: rest => ({ o with variant? := some 'E' }, rest)
  | 'O' :: rest => ({ o with variant? := some 'O' }, rest)
  | cs => (o, cs)

/-- Read all that may stand before the letter. -/
def read (cs : List Char) : Options × List Char :=
  let (o, cs) := Options.none.readFlags cs
  let (o, cs) := o.readWidth cs
  o.readVariant cs

/-- May the letter follow these options? -/
def allow (o : Options) (letter : Char) : Bool :=
  match o.variant? with
  | .none => true
  | some 'E' => !"aADFdeHIkljMmSUVgGWwbhB".toList.contains letter
  | some _ => !"aADFcxXY".toList.contains letter

/-- Fill a text up on the left to the width. -/
def fill (o : Options) (text : List Char) : List Char :=
  List.replicate (o.width - text.length) (if o.padding = .zeros then '0' else ' ') ++ text

/-- A number with its sign, filled up to so many digits or the width. -/
def number (o : Options) (digits : Nat) (n : Int) : List Char :=
  let sign := if n < 0 then ['-'] else []
  let ds := Nat.toDigits 10 n.natAbs
  let missing := max digits o.width - (sign.length + ds.length)
  match o.padding with
  | .nothing => o.fill (sign ++ ds)
  | .blanks => List.replicate missing ' ' ++ sign ++ ds
  | .usual | .zeros => sign ++ List.replicate missing '0' ++ ds

/-- A text in the case that the options ask for. -/
def inCase (o : Options) (text : List Char) : List Char :=
  if o.capitals then text.map Text.upperLetter else text

end Options

namespace Moment

/-- The hour on a face with twelve hours. -/
def faceHour (m : Moment) : Nat :=
  if m.hour % 12 = 0 then 12 else m.hour % 12

/-- The day of the week from Monday, which is 0. -/
def dayAfterMonday (m : Moment) : Nat := (m.weekday + 6) % 7

/-- The number of the week of the year; weeks begin with the day that `weekday` is counted from. -/
def weekFrom (m : Moment) (weekday : Nat) : Nat := (m.yearDay - 1 + 7 - weekday) / 7

/-- The year and the number of the week of the calendar in which the first week has four days. Such a year
has thirty-two bits. -/
def isoWeek (m : Moment) : Int × Nat :=
  let weekOf (ordinal : Int) : Int := (ordinal - m.dayAfterMonday + 9).fdiv 7
  let length (year : Int) : Int := if isLeapYear year then 366 else 365
  let week := weekOf m.yearDay
  if week < 1 then (m.year - 1, (weekOf (m.yearDay + length (m.year - 1))).toNat)
  else if week = 53 ∧ length m.year - m.yearDay < 3 - m.dayAfterMonday then ((m.year + 1).bmod (Number.twoTo 32), 1)
  else (m.year, week.toNat)

/-- What a letter stands for at a moment, if it is one part. -/
def part? (names : Names) (m : Moment) : Char → Option Conversion
  | 'Y' => some (.number 1 m.year)
  | 'C' => some (.number 1 (m.year.fdiv 100))
  | 'y' => some (.number 2 (m.year.fmod 100))
  | 'm' => some (.number 2 m.month)
  | 'd' => some (.number 2 m.day)
  | 'e' => some (.blankNumber 2 m.day)
  | 'H' => some (.number 2 m.hour)
  | 'k' => some (.blankNumber 2 m.hour)
  | 'I' => some (.number 2 m.faceHour)
  | 'l' => some (.blankNumber 2 m.faceHour)
  | 'M' => some (.number 2 m.minute)
  | 'S' => some (.number 2 m.second)
  | 'j' => some (.number 3 m.yearDay)
  | 'u' => some (.number 1 (m.dayAfterMonday + 1 : Nat))
  | 'w' => some (.number 1 m.weekday)
  | 'U' => some (.number 2 (m.weekFrom m.weekday))
  | 'W' => some (.number 2 (m.weekFrom m.dayAfterMonday))
  | 'G' => some (.number 1 m.isoWeek.1)
  | 'g' => some (.number 2 (m.isoWeek.1.fmod 100))
  | 'V' => some (.number 2 m.isoWeek.2)
  | 's' => some (.verbatim (toString m.epoch).toList)
  | 'A' => some (.name (named names.days m.weekday))
  | 'a' => some (.name (named names.shortDays m.weekday))
  | 'B' => some (.name (named names.months (m.month - 1)))
  | 'b' | 'h' => some (.name (named names.shortMonths (m.month - 1)))
  | 'p' => some (.mark (if m.hour < 12 then names.morning else names.afternoon).toList)
  | 'P' => some (.verbatim ((if m.hour < 12 then names.morning else names.afternoon).toList.map Char.toLower))
  | 'Z' => some (.mark m.zoneName.toList)
  | 'z' => some (.offset m.ahead)
  | 'n' => some (.verbatim ['\n'])
  | 't' => some (.verbatim ['\t'])
  | '%' => some (.verbatim ['%'])
  | _ => none

end Moment

/-- The hours and minutes of a distance from universal time, written as one number. -/
def clockDigits (seconds : Int) : Nat := seconds.natAbs / 3600 * 100 + seconds.natAbs / 60 % 60

/-- The text of a conversion under options. -/
def Conversion.text (o : Options) : Conversion → List Char
  | .number digits n => o.number digits n
  | .blankNumber digits n =>
    (if o.padding = .usual then { o with padding := .blanks } else o).number digits n
  | .name text => o.fill ({ o with capitals := o.capitals || o.otherCase }.inCase text)
  | .mark text => o.fill (if o.otherCase then text.map Char.toLower else o.inCase text)
  | .verbatim text => o.fill text
  | .offset seconds => o.fill [if seconds < 0 then '-' else '+'] ++ o.number 4 (clockDigits seconds)
  | .compound text => o.inCase (o.fill text)

namespace Moment

/-- Fill in a pattern of single parts without options. -/
def expand (names : Names) (m : Moment) : List Char → List Char
  | '%' :: c :: rest => match m.part? names c with
    | some conversion => conversion.text .none ++ expand names m rest
    | none => '%' :: c :: expand names m rest
  | c :: rest => c :: expand names m rest
  | [] => []

end Moment

/-- A place: the zone of its clocks, its names, and how it writes the date with the time, the date, the time, and
the time on a face with twelve hours. -/
structure Place where
  /-- The zone. -/
  zone : Zone
  /-- The names. -/
  names : Names
  /-- The date with the time. -/
  dateAndTime : Moment → List Char
  /-- The date. -/
  date : Moment → List Char
  /-- The time. -/
  time : Moment → List Char
  /-- The time on a face with twelve hours. -/
  faceTime : Moment → List Char

/-- The place of universal time where no language has been chosen. -/
def Place.universal : Place :=
  let expand (pattern : String) (m : Moment) : List Char := m.expand .english pattern.toList
  { zone := .universal, names := .english, dateAndTime := expand "%a %b %e %H:%M:%S %Y", date := expand "%m/%d/%y"
    time := expand "%H:%M:%S", faceTime := expand "%I:%M:%S %p" }

instance : Inhabited Place := ⟨.universal⟩

namespace Moment

/-- What a letter stands for at a moment in a place. -/
def conversion? (place : Place) (m : Moment) : Char → Option Conversion
  | 'c' => some (.compound (place.dateAndTime m))
  | 'x' => some (.compound (place.date m))
  | 'X' => some (.compound (place.time m))
  | 'r' => some (.compound (place.faceTime m))
  | 'D' => some (.compound (m.expand place.names "%m/%d/%y".toList))
  | 'F' => some (.compound (m.expand place.names "%Y-%m-%d".toList))
  | 'R' => some (.compound (m.expand place.names "%H:%M".toList))
  | 'T' => some (.compound (m.expand place.names "%H:%M:%S".toList))
  | letter => m.part? place.names letter

/-- The pieces of a pattern, at most `rounds` of them. A width beyond the room for the text counts as that
room. -/
def pieces (room : Nat) : Nat → List Char → List PatternPiece
  | 0, _ => []
  | _ + 1, [] => []
  | rounds + 1, '%' :: rest =>
    let (o, after) := Options.read rest
    let o := { o with width := min o.width room }
    match after with
    | letter :: after =>
      .conversion ('%' :: rest.take (rest.length - after.length)) o letter :: pieces room rounds after
    | [] => [.unfinished ('%' :: rest) o]
  | rounds + 1, c :: rest => .literal c :: pieces room rounds rest

/-- The text of a piece. A conversion whose options do not fit it is written as it stands, a percent sign
alone. -/
def pieceText (place : Place) (m : Moment) : PatternPiece → List Char
  | .literal c => [c]
  | .unfinished written o => o.fill (o.inCase written)
  | .conversion written o letter =>
    match (if o.allow letter then m.conversion? place letter else none) with
    | some conversion => conversion.text o
    | none => o.fill (o.inCase written)

/-- How long the text under a pattern of so many characters may become: there is room for 1024 characters,
doubled until there are 256 for each character of the pattern. -/
def roomFor (size : Nat) : Nat :=
  1024 * Number.twoTo (Nat.log2 (2 * ((size + 3) / 4) - 1))

/-- The text of a moment under a pattern in a place; nothing if it is too long. -/
def render (place : Place) (m : Moment) (pattern : String) : String :=
  let room := roomFor pattern.length
  let text := (pieces room pattern.length pattern.toList).flatMap (m.pieceText place)
  if text.length < room then String.ofList text else ""

end Moment

end HostBridge.Time
