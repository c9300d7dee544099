import HostBridge.Config.Document.Kind
import HostBridge.Text.Numeral
import HostBridge.Value.Text

/-!
# Values of single texts

What a text means if it is to hold a certain kind of value. A text whose spelling implied its kind always
means something, but a tag may name a kind that does not suit.
-/

namespace HostBridge.Config.Document

open Number (Binary64)

namespace Scalar

/-- The fault of looking at a character of an empty text. -/
def noCharacter : Fault := .standard (.named "IndexError") "string index out of range"

/-- Is there a minus sign in front, and what stands behind a sign; there has to be a character. -/
def splitSign : List Char → Except Fault (Bool × List Char)
  | [] => .error noCharacter
  | '-' :: rest => .ok (true, rest)
  | '+' :: rest => .ok (false, rest)
  | cs => .ok (false, cs)

/-- Digits in a base may be announced by a zero and a letter. -/
def withoutBaseMark (base : Nat) (cs : List Char) : List Char :=
  let (signs, body) := (cs.takeWhile fun c => c == '-' || c == '+', cs.dropWhile fun c => c == '-' || c == '+')
  let letter? : Option Char := if base = 2 then some 'b' else if base = 8 then some 'o'
    else if base = 16 then some 'x' else none
  match body with
  | '0' :: c :: rest => if letter? = some c.toLower ∧ !rest.isEmpty then signs ++ rest else cs
  | _ => cs

/-- The integer that digits in a base spell. -/
def integerIn (base : Nat) (cs : List Char) : Except Fault Int :=
  match Text.Numeral.integer base digitLimit (withoutBaseMark base cs) with
  | .integer n => .ok n
  | .tooLong digits => .error (tooLongToRead digits)
  | .noInteger => .error <| .standard .value <|
      s!"invalid literal for int() with base {base}: " ++ Text.quote (String.ofList cs)

/-- An integer: decimal, binary, hexadecimal, octal (a leading zero), or in base sixty with colons. -/
def integer (cs : List Char) : Except Fault Int := do
  let (negative, body) ← splitSign (cs.filter (· != '_'))
  let n ← match body with
    | ['0'] => pure 0
    | '0' :: 'b' :: rest => integerIn 2 rest
    | '0' :: 'x' :: rest => integerIn 16 rest
    | [] => throw noCharacter
    | '0' :: _ => integerIn 8 body
    | _ => do
      let parts ← (fields body).mapM (integerIn 10)
      pure (parts.foldl (fun n part => 60 * n + part) 0)
  return if negative then -n else n

/-- The floating-point number that a text spells. -/
def floatIn (cs : List Char) : Except Fault Binary64 :=
  match Text.Numeral.float? cs with
  | some x => .ok x
  | none => .error (.standard .value ("could not convert string to float: " ++ Text.quote (String.ofList cs)))

/-- The number that parts in base sixty make, the last one first; `base` is the weight of the next. -/
def sixtieths : Nat → Binary64 → List Binary64 → Except Fault Binary64
  | _, sum, [] => .ok sum
  | base, sum, part :: rest =>
    match Binary64.ofInt? base with
    | some weight => sixtieths (60 * base) (sum.add (part.mul weight)) rest
    | none => .error (.standard .overflow "int too large to convert to float")

/-- A floating-point number, perhaps in base sixty with colons. -/
def float (cs : List Char) : Except Fault Binary64 := do
  let (negative, body) ← splitSign ((cs.filter (· != '_')).map Char.toLower)
  let x ←
    if body = ".inf".toList then pure (Binary64.infinity false)
    else if body = ".nan".toList then pure Binary64.nan
    else match fields body with
      | [_] => floatIn body
      | parts => do sixtieths 1 (Binary64.ofRatio false 0 1) (← parts.mapM floatIn).reverse
  return if negative then x.mul (Binary64.ofRatio true 1 1) else x

/-- A truth value, in any case. -/
def truth (text : String) : Except Fault Bool :=
  let word := text.toLower
  if ["yes", "true", "on"].contains word then .ok true
  else if ["no", "false", "off"].contains word then .ok false
  else .error (.standard .key word)

/-- A date, perhaps with a time of day. -/
def instant (cs : List Char) : Except Fault Value :=
  match instant? (withoutLineEnd cs) with
  | none => .error (.misuse .absentAttribute "no instant")
  | some (date, none) => match date.problem? with
    | some problem => .error (.standard .value problem)
    | none => .ok (.date date)
  | some (_, some t) => match t.problem? with
    | some problem => .error (.standard .value problem)
    | none => .ok (.dateTime t)

/-- The six bits that a character of a binary text stands for. -/
def sextet? (c : Char) : Option Nat :=
  if 'A' ≤ c ∧ c ≤ 'Z' then some (c.toNat - 'A'.toNat)
  else if 'a' ≤ c ∧ c ≤ 'z' then some (c.toNat - 'a'.toNat + 26)
  else if c.isDigit then some (c.toNat - '0'.toNat + 52)
  else if c = '+' then some 62
  else if c = '/' then some 63
  else none

/-- The bytes that sextets spell in groups of four, after `count` sextets of a group that left some bits
over. Padding ends the text once a group is full with it; other characters do not count. -/
def binaryFrom (count left padding : Nat) : List Char → Option (List UInt8)
  | [] => if count = 0 then some [] else none
  | c :: rest =>
    if c = '=' then
      if 2 ≤ count then
        if 4 ≤ count + padding + 1 then some [] else binaryFrom count left (padding + 1) rest
      else binaryFrom count left padding rest
    else match sextet? c with
      | none => binaryFrom count left padding rest
      | some n => match count with
        | 0 => binaryFrom 1 n 0 rest
        | 1 => (binaryFrom 2 (n % 16) 0 rest).map (UInt8.ofNat (left * 4 + n / 16) :: ·)
        | 2 => (binaryFrom 3 (n % 4) 0 rest).map (UInt8.ofNat (left * 16 + n / 4) :: ·)
        | _ => (binaryFrom 0 0 0 rest).map (UInt8.ofNat (left * 64 + n) :: ·)

/-- The bytes that a text spells. -/
def binary (cs : List Char) : Except Fault (List UInt8) :=
  if cs.all fun c => c.toNat < 128 then
    match binaryFrom 0 0 0 cs with
    | some data => .ok data
    | none => .error .malformed
  else .error .malformed

/-- What a text means if it holds a kind of value. -/
def valueAs (kind : Kind) (text : String) : Except Fault Value :=
  match kind with
  | .absent => .ok .nil
  | .truth => (truth text).map .bool
  | .integer => (integer text.toList).map .int
  | .float => (float text.toList).map .float
  | .instant => instant text.toList
  | .text => .ok (.text text)
  | .binary => (binary text.toList).map .bytes
  | _ => .error .malformed

end Scalar

end HostBridge.Config.Document
