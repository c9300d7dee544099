import HostBridge.Number.Rounded
import HostBridge.Value.Text
import HostBridge.Fault

/-!
# Percent templates

A template is literal text and conversions such as `%s`, `%-8.3d` or `%(name)s`. Conversions take their
values in order from a row, or by name from a mapping. A template is read completely first; a malformed
conversion is a fault only when its turn comes.
-/

namespace HostBridge.Text

open Number (Binary64 twoTo tenTo)

namespace Template

/-- Where a conversion takes its value from. -/
inductive Key where
  /-- The next value of the row. -/
  | next
  /-- The entry of that name. -/
  | named (name : String)
  /-- An entry whose name is not closed. -/
  | unclosed
deriving DecidableEq, Repr

/-- A width or a precision. -/
inductive Count where
  | absent
  | given (n : Nat)
  /-- The next value of the row. -/
  | next
deriving DecidableEq, Repr

/-- The flags of a conversion. -/
structure Flags where
  /-- Fill up on the right. -/
  left : Bool := false
  /-- Write a sign also for positive numbers. -/
  plus : Bool := false
  /-- Write a blank where the sign of a positive number would be. -/
  blank : Bool := false
  /-- Write the base, or a point without places. -/
  alternate : Bool := false
  /-- Fill up with zeros after the sign. -/
  zeros : Bool := false
deriving DecidableEq, Repr

/-- A conversion. -/
structure Spec where
  /-- Where the value comes from. -/
  key : Key
  /-- The flags. -/
  flags : Flags
  /-- The least width. -/
  width : Count
  /-- The precision. -/
  precision : Count
  /-- The letter and its position; there is none if the template ends before it. -/
  letter? : Option (Char × Nat)
deriving DecidableEq, Repr

/-- A piece of a template. -/
inductive Piece where
  | literal (c : Char)
  | conversion (spec : Spec)
deriving DecidableEq, Repr

/-- The name before the closing bracket, and what follows it. Brackets in the name come in pairs; `depth`
of them are open. -/
def untilClosed : Nat → List Char → Option (List Char × List Char)
  | _, [] => none
  | depth, c :: rest =>
    if c = ')' then
      if depth = 0 then some ([], rest) else (untilClosed (depth - 1) rest).map fun r => (c :: r.1, r.2)
    else
      (untilClosed (if c = '(' then depth + 1 else depth) rest).map fun r => (c :: r.1, r.2)

/-- The key of a conversion, and what follows it. -/
def readKey : List Char → Key × List Char
  | '(' :: rest => match untilClosed 0 rest with
    | some (name, rest) => (.named (String.ofList name), rest)
    | none => (.unclosed, [])
  | cs => (.next, cs)

/-- The flags of a conversion, and what follows them. -/
def readFlags (flags : Flags) : List Char → Flags × List Char
  | '-' :: rest => readFlags { flags with left := true } rest
  | '+' :: rest => readFlags { flags with plus := true } rest
  | ' ' :: rest => readFlags { flags with blank := true } rest
  | '#' :: rest => readFlags { flags with alternate := true } rest
  | '0' :: rest => readFlags { flags with zeros := true } rest
  | cs => (flags, cs)

/-- The number that digits spell. -/
def number (ds : List Char) : Nat :=
  ds.foldl (fun n c => 10 * n + (c.toNat - '0'.toNat)) 0

/-- A width or precision, and what follows it. -/
def readCount : List Char → Count × List Char
  | '*' :: rest => (.next, rest)
  | cs =>
    let ds := cs.takeWhile Char.isDigit
    if ds.isEmpty then (.absent, cs) else (.given (number ds), cs.dropWhile Char.isDigit)

/-- A precision after its point, which may lack its digits. -/
def readPrecision : List Char → Count × List Char
  | '.' :: rest => match readCount rest with
    | (.absent, rest) => (.given 0, rest)
    | found => found
  | cs => (.absent, cs)

/-- Without a letter for the size of a number, which says nothing here. -/
def skipSize : List Char → List Char
  | c :: rest => if c = 'h' ∨ c = 'l' ∨ c = 'L' then rest else c :: rest
  | [] => []

/-- The conversion after a percent sign in a template of `size` characters, and what follows it. -/
def readSpec (size : Nat) (cs : List Char) : Spec × List Char :=
  let (key, cs) := readKey cs
  let (flags, cs) := readFlags {} cs
  let (width, cs) := readCount cs
  let (precision, cs) := readPrecision cs
  match skipSize cs with
  | c :: rest => ({ key, flags, width, precision, letter? := some (c, size - (rest.length + 1)) }, rest)
  | [] => ({ key, flags, width, precision, letter? := none }, [])

/-- The pieces of a template of `size` characters, at most `rounds` of them. -/
def readPieces (size : Nat) : Nat → List Char → List Piece
  | 0, _ => []
  | _ + 1, [] => []
  | rounds + 1, '%' :: '%' :: rest => .literal '%' :: readPieces size rounds rest
  | rounds + 1, '%' :: rest =>
    let (spec, rest) := readSpec size rest
    .conversion spec :: readPieces size rounds rest
  | rounds + 1, c :: rest => .literal c :: readPieces size rounds rest

/-- The pieces of a template. -/
def pieces (template : List Char) : List Piece :=
  readPieces template.length template.length template

/-- The fault of a template that asks for more values than there are. -/
def exhausted : Fault := .misuse .type "not enough arguments for format string"

/-- The next value of a row. -/
def takeNext : List Value → Except Fault (Value × List Value)
  | v :: rest => .ok (v, rest)
  | [] => .error exhausted

/-- The row from which a conversion with this key takes its values. -/
def select (source? : Option (String → Option Value)) (row : List Value) :
    Key → Except Fault (List Value)
  | .next => .ok row
  | .unclosed => match source? with
    | none => .error (.misuse .type "format requires a mapping")
    | some _ => .error (.standard .value "incomplete format key")
  | .named name => match source? with
    | none => .error (.misuse .type "format requires a mapping")
    | some entry => match entry name with
      | some v => .ok [v]
      | none => .error (.standard .key name)

/-- How far a width or precision may go. -/
structure Bound where
  /-- The greatest one. -/
  greatest : Nat
  /-- What it bounds. -/
  what : String
  /-- The word for the numbers that it bounds. -/
  numbers : String

/-- The bound of widths. -/
def widthBound : Bound := ⟨twoTo 63 - 1, "width", "ssize_t"⟩

/-- The bound of precisions. -/
def precisionBound : Bound := ⟨twoTo 31 - 1, "precision", "int"⟩

/-- A number of a row as a width or precision. -/
def Bound.check (bound : Bound) (n : Int) : Except Fault Int :=
  if -(bound.greatest + 1 : Int) ≤ n ∧ n ≤ bound.greatest then .ok n
  else .error (.standard .overflow ("Python int too large to convert to C " ++ bound.numbers))

/-- A width or precision, with the rest of the row. -/
def resolve (bound : Bound) (row : List Value) : Count → Except Fault (Option Int × List Value)
  | .absent => .ok (none, row)
  | .given n =>
    if n ≤ bound.greatest then .ok (some n, row)
    else .error (.standard .value (bound.what ++ " too big"))
  | .next => do
    let (v, row) ← takeNext row
    match v.plain with
    | .int n => return (some (← bound.check n), row)
    | .bool b => return (some (if b then 1 else 0), row)
    | _ => .error (.misuse .type "* wants int")

/-- A conversion's text in three parts. -/
structure Parts where
  /-- The sign. -/
  sign : List Char
  /-- The base. -/
  base : List Char
  /-- The rest. -/
  body : List Char

/-- Fill up to a width: on the right, between base and body with zeros, or on the left. -/
def fillUp (left zeros : Bool) (width : Nat) (parts : Parts) : List Char :=
  let fill := width - (parts.sign.length + parts.base.length + parts.body.length)
  if left then parts.sign ++ parts.base ++ parts.body ++ List.replicate fill ' '
  else if zeros then parts.sign ++ parts.base ++ List.replicate fill '0' ++ parts.body
  else List.replicate fill ' ' ++ parts.sign ++ parts.base ++ parts.body

/-- The sign to write. -/
def signFor (flags : Flags) (negative : Bool) : List Char :=
  if negative then ['-'] else if flags.plus then ['+'] else if flags.blank then [' '] else []

/-- The integer that a decimal conversion shows: that of a floating-point number is cut off. -/
def wholeNumber (v : Value) : Except Fault Int :=
  match v.plain with
  | .int n => .ok n
  | .bool b => .ok (if b then 1 else 0)
  | .float x =>
    if x.isNaN then .error (.standard .value "cannot convert float NaN to integer")
    else if x.isFinite then .ok x.truncate
    else .error (.standard .overflow "cannot convert float infinity to integer")
  | _ => .error (.misuse .type s!"%d format: a real number is required, not {v.typeName}")

/-- The integer that a conversion to another base shows. -/
def exactInteger (v : Value) : Except Fault Int :=
  match v.plain with
  | .int n => .ok n
  | .bool b => .ok (if b then 1 else 0)
  | _ => .error (.misuse .type s!"%x format: an integer is required, not {v.typeName}")

/-- The number that a floating-point conversion shows. -/
def realNumber (v : Value) : Except Fault Binary64 :=
  match v.plain with
  | .float x => .ok x
  | .bool b => .ok (Binary64.ofRatio false (if b then 1 else 0) 1)
  | .int n => match Binary64.ofInt? n with
    | some x => .ok x
    | none => .error (.standard .overflow "int too large to convert to float")
  | _ => .error (.misuse .type s!"must be real number, not {v.typeName}")

/-- The character that a character conversion shows. -/
def oneCharacter (v : Value) : Except Fault (List Char) :=
  match v.plain with
  | .text s => if s.length = 1 then .ok s.toList else .error (.misuse .type "%c requires int or char")
  | _ => match exactInteger v with
    | .error _ => .error (.misuse .type "%c requires int or char")
    | .ok n =>
      if 0 ≤ n ∧ n < 0x110000 then .ok [Char.ofNat n.toNat]
      else .error (.standard .overflow "%c arg not in range(0x110000)")

/-- How many digits of an integer can be asked for. -/
def mostDigits : Nat := twoTo 31 - 4

/-- The digits of an integer in a base, at least so many. An integer can be too long to be shown in base ten. -/
def integerParts (flags : Flags) (base : Nat) (mark : List Char) (precision? : Option Nat) (n : Int) :
    Except Fault Parts := do
  let ds := Nat.toDigits base n.natAbs
  let count := precision?.getD 0
  if mostDigits < count then throw (.standard .overflow "precision too large")
  if base = 10 && (Primitive.int n).exceedsDigits then throw tooLongToShow
  return { sign := signFor flags (n < 0)
           base := if flags.alternate then mark else []
           body := List.replicate (count - ds.length) '0' ++ ds }

/-- A floating-point number in a style. -/
def realParts (flags : Flags) (style : Number.RoundedStyle) (precision? : Option Nat) (x : Binary64) : Parts :=
  match x.rounded style (precision?.getD 6) flags.alternate with
  | '-' :: body => { sign := signFor flags true, base := [], body }
  | body => { sign := signFor flags false, base := [], body }

/-- A text, cut off at the precision. -/
def textParts (precision? : Option Nat) (s : List Char) : Parts :=
  { sign := [], base := [], body := match precision? with
      | some n => s.take n
      | none => s }

/-- Parts in capitals. -/
def Parts.capitals (parts : Parts) : Parts :=
  { parts with base := parts.base.map Char.toUpper, body := parts.body.map Char.toUpper }

/-- A literal text with ASCII characters only. -/
def asciiOnly (s : String) : String :=
  String.ofList <| s.toList.flatMap fun c =>
    if c.toNat < 0x80 then [c]
    else if c.toNat < 0x100 then '\\' :: 'x' :: hexDigits 2 c.toNat
    else if c.toNat < 0x10000 then '\\' :: 'u' :: hexDigits 4 c.toNat
    else '\\' :: 'U' :: hexDigits 8 c.toNat

/-- The fault of a conversion letter that means nothing. -/
def unsupported (letter : Char) (index : Nat) : Fault :=
  let shown := if 31 ≤ letter.toNat ∧ letter.toNat ≤ 126 then letter else '?'
  let code := String.ofList (hexDigits 1 letter.toNat)
  .standard .value s!"unsupported format character '{shown}' (0x{code}) at index {index}"

/-- The parts of a value under a conversion letter, and whether zeros may fill them up. -/
def convert (flags : Flags) (precision? : Option Nat) (letter : Char) (index : Nat) (v : Value) :
    Except Fault (Parts × Bool) :=
  let text (s : Except Fault String) : Except Fault (Parts × Bool) :=
    s.map fun s => (textParts precision? s.toList, false)
  let whole : Except Fault (Parts × Bool) := do
    return (← integerParts flags 10 [] precision? (← wholeNumber v), true)
  let exact (base : Nat) (mark : Char) : Except Fault Parts := do
    integerParts flags base ['0', mark] precision? (← exactInteger v)
  let real (style : Number.RoundedStyle) : Except Fault Parts :=
    (realNumber v).map (realParts flags style precision?)
  match letter with
  | 's' => text v.shown
  | 'r' => text v.spelledOut
  | 'a' => text (v.spelledOut.map asciiOnly)
  | 'd' | 'i' | 'u' => whole
  | 'o' => (exact 8 'o').map (·, true)
  | 'x' => (exact 16 'x').map (·, true)
  | 'X' => (exact 16 'x').map fun p => (p.capitals, true)
  | 'f' => (real .fixed).map (·, true)
  | 'F' => (real .fixed).map fun p => (p.capitals, true)
  | 'e' => (real .scientific).map (·, true)
  | 'E' => (real .scientific).map fun p => (p.capitals, true)
  | 'g' => (real .general).map (·, true)
  | 'G' => (real .general).map fun p => (p.capitals, true)
  | 'c' => (oneCharacter v).map fun cs => ({ sign := [], base := [], body := cs }, false)
  | _ => .error (unsupported letter index)

/-- The text of a conversion, with the rest of the row. A negative precision counts as zero; a negative
width fills up on the right, and the least one of all not at all. -/
def fillSpec (source? : Option (String → Option Value)) (spec : Spec) (row : List Value) :
    Except Fault (List Char × List Value) := do
  let row ← select source? row spec.key
  let (width?, row) ← resolve widthBound row spec.width
  let (precision?, row) ← resolve precisionBound row spec.precision
  match spec.letter? with
  | none => .error (.standard .value "incomplete format")
  | some (letter, index) =>
    let (v, row) ← takeNext row
    let (parts, mayZero) ← convert spec.flags (precision?.map Int.toNat) letter index v
    let width := width?.getD 0
    let size := if width.natAbs ≤ widthBound.greatest then width.natAbs else 0
    .ok (fillUp (spec.flags.left || width < 0) (spec.flags.zeros && mayZero) size parts, row)

/-- The text of the pieces, with the rest of the row. -/
def fillPieces (source? : Option (String → Option Value)) :
    List Piece → List Value → Except Fault (List Char × List Value)
  | [], row => .ok ([], row)
  | .literal c :: rest, row => do
    let (text, row) ← fillPieces source? rest row
    .ok (c :: text, row)
  | .conversion spec :: rest, row => do
    let (head, row) ← fillSpec source? spec row
    let (tail, row) ← fillPieces source? rest row
    .ok (head ++ tail, row)

/-- Fill a template with a row of values. All of them have to be used. -/
def fill (template : String) (row : List Value) : Except Fault String := do
  let (text, rest) ← fillPieces none (pieces template.toList) row
  if rest.isEmpty then .ok (String.ofList text)
  else .error (.misuse .type "not all arguments converted during string formatting")

/-- Fill a template from a mapping. A conversion without a name takes the mapping as a whole. -/
def fillFrom (template : String) (mapping : Value) (entry : String → Option Value) :
    Except Fault String :=
  (fillPieces (some entry) (pieces template.toList) [mapping]).map fun r => String.ofList r.1

end Template

end HostBridge.Text
