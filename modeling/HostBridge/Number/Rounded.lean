import HostBridge.Number.Shortest

/-!
# Numbers with a given count of digits

A finite number written with so many places after the point, with so many significant digits and an
exponent, or in the shorter of the two ways. Every rounding is to nearest, a tie to the even digit.
Signs are left to the caller.
-/

namespace HostBridge.Number

/-- How a rounded number is laid out. -/
inductive RoundedStyle where
  /-- So many places after the point. -/
  | fixed
  /-- One digit before the point, so many after it, and an exponent. -/
  | scientific
  /-- So many significant digits in whichever way suits the size of the number. -/
  | general
deriving DecidableEq, Repr

namespace Binary64

/-- The size of a finite number as a fraction. -/
def fraction (x : Binary64) : Nat × Nat :=
  scaled x.mantissa 1 x.scale

/-- A whole number of `10 ^ -places`, with its point. `keepPoint` writes the point also where no digit
follows it. -/
def withPlaces (units places : Nat) (keepPoint : Bool) : List Char :=
  let ds := Nat.toDigits 10 units
  let ds := List.replicate (places + 1 - ds.length) '0' ++ ds
  let whole := ds.take (ds.length - places)
  if places = 0 then if keepPoint then whole ++ ['.'] else whole
  else whole ++ '.' :: ds.drop (ds.length - places)

/-- The nearest number of `places + 1` digits: its digits and the exponent of the first one. -/
def significant (x : Binary64) (places : Nat) : Nat × Int :=
  if x.isZero then (0, 0)
  else
    let (n, d) := x.fraction
    let e := decimalExponent n d
    let shift : Int := places - e
    let c := if 0 ≤ shift then roundQuotient (n * tenTo shift.toNat) d
      else roundQuotient n (d * tenTo (-shift).toNat)
    if c = tenTo (places + 1) then (c / 10, e + 1) else (c, e)

/-- An exponent: its sign and at least two digits. -/
def exponentText (e : Int) : List Char :=
  let ds := Nat.toDigits 10 e.natAbs
  'e' :: (if e < 0 then '-' else '+') :: (List.replicate (2 - ds.length) '0' ++ ds)

/-- Without zeros at the end of the places, and without a point at the end. -/
def dropPlaces (cs : List Char) : List Char :=
  if cs.contains '.' then
    let shorter := (cs.reverse.dropWhile (· == '0')).reverse
    if shorter.getLast? = some '.' then shorter.dropLast else shorter
  else cs

/-- The digits of a finite number, without its sign. -/
def roundedDigits (x : Binary64) (style : RoundedStyle) (count : Nat) (keepPoint : Bool) : List Char :=
  match style with
  | .fixed =>
    let (n, d) := x.fraction
    withPlaces (roundQuotient (n * tenTo count) d) count keepPoint
  | .scientific =>
    let (c, e) := x.significant count
    withPlaces c count keepPoint ++ exponentText e
  | .general =>
    let count := max count 1
    let (c, e) := x.significant (count - 1)
    let tidy := if keepPoint then id else dropPlaces
    if -4 ≤ e ∧ e < count then
      tidy (withPlaces c ((count : Int) - 1 - e).toNat keepPoint)
    else tidy (withPlaces c (count - 1) keepPoint) ++ exponentText e

/-- The text of a number, signed if it is negative. -/
def rounded (x : Binary64) (style : RoundedStyle) (count : Nat) (keepPoint : Bool) : List Char :=
  if x.isNaN then "nan".toList
  else
    (if x.isNegative then ['-'] else []) ++
      if x.isFinite then x.roundedDigits style count keepPoint else "inf".toList

end Binary64

end HostBridge.Number
