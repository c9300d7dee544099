import HostBridge.Number.Binary64
import HostBridge.Text.Word

/-!
# Numerals

Texts that spell a number: an integer in some base, or a decimal fraction with an exponent. Digits may be
those of any script, single underscores may stand between digits, and blanks around the numeral do not
count. Nothing is said here about what to do with a text that spells no number.
-/

namespace HostBridge.Text

open Number (Binary64 twoTo tenTo)

namespace Numeral

/-- Blanks that may surround a numeral: all but the four information separators. -/
def isMargin (c : Char) : Bool :=
  isBlank c && !(0x1c ≤ c.toNat && c.toNat ≤ 0x1f)

/-- Without the blanks at both ends. -/
def trim (cs : List Char) : List Char :=
  ((cs.dropWhile isMargin).reverse.dropWhile isMargin).reverse

/-- The value of a digit in a base up to sixteen, in whichever script it is written. -/
def digit? (base : Nat) (c : Char) : Option Nat :=
  let n? :=
    if 'a' ≤ c ∧ c ≤ 'f' then some (c.toNat - 'a'.toNat + 10)
    else if 'A' ≤ c ∧ c ≤ 'F' then some (c.toNat - 'A'.toNat + 10)
    else digitValue? c
  n?.filter (· < base)

/-- Split off a sign: is it negative? -/
def sign : List Char → Bool × List Char
  | '-' :: rest => (true, rest)
  | '+' :: rest => (false, rest)
  | cs => (false, cs)

/-- The digits at the beginning, latest first, and what follows them; single underscores between digits are
passed over. An underscore that no digit follows or precedes stops the reading for good. -/
def takeDigits (base : Nat) (digits : List Nat) (joined : Bool) : List Char → Option (List Nat × List Char)
  | [] => if joined then none else some (digits, [])
  | c :: rest =>
    match digit? base c with
    | some d => takeDigits base (d :: digits) false rest
    | none =>
      if c = '_' then
        if joined || digits.isEmpty then none else takeDigits base digits true rest
      else if joined then none else some (digits, c :: rest)

/-- The number that digits spell, latest first. -/
def value (base : Nat) (digits : List Nat) : Nat :=
  digits.foldr (fun d n => base * n + d) 0

/-- What a text spells as an integer. -/
inductive IntegerReading where
  | integer (n : Int)
  /-- It has more digits than are ever read. -/
  | tooLong (digits : Nat)
  | noInteger
deriving DecidableEq, Repr

/-- Read an integer in a base. More than `limit` digits in base ten are refused, whatever follows them. -/
def integer (base limit : Nat) (text : List Char) : IntegerReading :=
  let (negative, body) := sign (text.dropWhile isMargin)
  match takeDigits base [] false body with
  | none | some ([], _) => .noInteger
  | some (digits, rest) =>
    if base = 10 && limit < digits.length then .tooLong digits.length
    else if rest.all isMargin then
      let n : Int := value base digits
      .integer (if negative then -n else n)
    else .noInteger

/-- A decimal fraction `± n · 10 ^ e`. Far out of reach the exponent does not matter any more. -/
def decimal (negative : Bool) (n : Nat) (e : Int) : Binary64 :=
  let size : Int := (Nat.log2 n * 30103 / 100000 : Nat)
  if n = 0 then Binary64.ofRatio negative 0 1
  else if 400 < e + size then Binary64.infinity negative
  else if e + size < -400 then Binary64.ofRatio negative 0 1
  else if 0 ≤ e then Binary64.ofRatio negative (n * tenTo e.toNat) 1
  else Binary64.ofRatio negative n (tenTo (-e).toNat)

/-- Underscores stand between digits only; without them. -/
def withoutJoins (last : Char) : List Char → Option (List Char)
  | [] => if last = '_' then none else some []
  | c :: rest =>
    if c = '_' then
      if last.isDigit then withoutJoins c rest else none
    else if last = '_' && !c.isDigit then none
    else (withoutJoins c rest).map (c :: ·)

/-- The exponent at the end of a numeral: a letter, perhaps a sign, and digits. -/
def exponent? : List Char → Option Int
  | [] => some 0
  | e :: rest =>
    let (negative, ds) := sign rest
    if (e = 'e' ∨ e = 'E') ∧ !ds.isEmpty ∧ ds.all Char.isDigit then
      let n : Int := digitsValue ds
      some (if negative then -n else n)
    else none

/-- The digits of a number as ASCII ones, other characters as they are. -/
def plainDigit (c : Char) : Char :=
  match digitValue? c with
  | some d => Char.ofNat ('0'.toNat + d)
  | none => c

/-- Read a floating-point number: a decimal fraction, or one of the names of infinity and of not-a-number in
any case. -/
def float? (text : List Char) : Option Binary64 := do
  let text ← withoutJoins ' ' ((trim text).map plainDigit)
  let (negative, body) := sign text
  let name := String.ofList (body.map Char.toLower)
  if name = "inf" ∨ name = "infinity" then return Binary64.infinity negative
  if name = "nan" then return Binary64.nan
  let whole := body.takeWhile Char.isDigit
  let (places, rest) := match body.dropWhile Char.isDigit with
    | '.' :: rest => (rest.takeWhile Char.isDigit, rest.dropWhile Char.isDigit)
    | rest => ([], rest)
  if whole.isEmpty ∧ places.isEmpty then none
  let e ← exponent? rest
  return decimal negative (digitsValue (whole ++ places)) (e - places.length)

example : integer 10 9 " -1_000 ".toList = .integer (-1000) := by decide
example : integer 10 9 "1__0".toList = .noInteger ∧ integer 16 9 "fF".toList = .integer 255 := by decide

end Numeral

end HostBridge.Text
