import HostBridge.Number.Binary64

/-!
# The shortest decimal text of a floating-point number

Of all decimal numbers that round to a given floating-point number, take those with the fewest digits,
and of these the nearest. `FloatLayout` holds what a format decides beyond the digits.
-/

namespace HostBridge.Number

/-- Decimal digits without zeros at the end, and the place of the point: the value is
`0.d₁d₂… · 10 ^ point`. -/
structure Decimal where
  /-- The digits as one integer. -/
  digits : Nat
  /-- How many digits stand before the point. -/
  point : Int
deriving DecidableEq, Repr

/-- Drop zeros at the end of the digits. The number of rounds bounds the digits looked at. -/
def dropZeros : Nat → Nat → Nat
  | 0, n => n
  | rounds + 1, n => if n ≠ 0 ∧ n % 10 = 0 then dropZeros rounds (n / 10) else n

/-- The exponent `k` with `10 ^ k ≤ n / d < 10 ^ (k + 1)`, found from a first guess that is off by at
most one. -/
def decimalExponent (n d : Nat) : Int :=
  let guess : Int := ((n.log2 : Int) - d.log2) * 30103 / 100000
  let atLeast (k : Int) : Bool :=
    if 0 ≤ k then d * tenTo k.toNat ≤ n else d ≤ n * tenTo (-k).toNat
  if atLeast (guess + 1) then guess + 1
  else if atLeast guess then guess
  else guess - 1

/-- The interval of reals that round to a positive finite number: value, lower end and upper end over
one denominator, and whether the ends belong to it. -/
structure RoundingInterval where
  /-- Numerator of the value. -/
  value : Nat
  /-- Numerator of the lower end. -/
  lower : Nat
  /-- Numerator of the upper end. -/
  upper : Nat
  /-- The common denominator. -/
  denominator : Nat
  /-- Do the ends round to the value too? -/
  closed : Bool

/-- The rounding interval of a finite number that is not zero, its sign left out. Below a power of two
the numbers lie half as far apart. -/
def RoundingInterval.of (x : Binary64) : RoundingInterval :=
  let m := x.mantissa
  let below := if m = twoTo 52 ∧ 1 < x.exponentField then 1 else 2
  let parts := Binary64.scaled 1 1 (x.scale - 2)
  { value := 4 * m * parts.1, lower := (4 * m - below) * parts.1, upper := (4 * m + 2) * parts.1
    denominator := parts.2, closed := m % 2 = 0 }

/-- Does `c · 10 ^ k` lie in the interval? -/
def RoundingInterval.holds (i : RoundingInterval) (c : Nat) (k : Int) : Bool :=
  let (p, q) := if 0 ≤ k then (c * tenTo k.toNat, 1) else (c, tenTo (-k).toNat)
  let mid := p * i.denominator
  if i.closed then i.lower * q ≤ mid && mid ≤ i.upper * q
  else i.lower * q < mid && mid < i.upper * q

/-- Of the two points of the grid `10 ^ k` next to the value, the one in the interval; of two the
nearer, and of two equally near the even one. -/
def RoundingInterval.point? (i : RoundingInterval) (k : Int) : Option Nat :=
  let (p, q) := if 0 ≤ k then (i.value, i.denominator * tenTo k.toNat)
    else (i.value * tenTo (-k).toNat, i.denominator)
  let c := p / q
  let nearest := Binary64.roundQuotient p q
  if i.holds c k && i.holds (c + 1) k then some nearest
  else if i.holds c k then some c
  else if i.holds (c + 1) k then some (c + 1)
  else none

/-- Try the grids with one digit, two digits and so on; seventeen digits always suffice. -/
def RoundingInterval.firstPoint (i : RoundingInterval) (top : Int) : Nat → Nat → Nat × Int
  | 0, tried => (i.value * tenTo 400 / i.denominator, top - tried)
  | more + 1, tried =>
    let k := top - tried
    match i.point? k with
    | some c => (c, k)
    | none => firstPoint i top more (tried + 1)

/-- The shortest decimal that reads back as a finite number other than zero, its sign left out. -/
def shortest (x : Binary64) : Decimal :=
  let i := RoundingInterval.of x
  let (c, k) := i.firstPoint (decimalExponent i.value i.denominator) 17 0
  let digits := dropZeros 20 c
  { digits, point := k + (Nat.toDigits 10 c).length }

/-- How a text of a number is laid out once its digits are chosen. -/
structure FloatLayout where
  /-- Smallest place of the point that is still written without an exponent. -/
  leastPoint : Int
  /-- Largest place of the point that is still written without an exponent. -/
  greatestPoint : Int
  /-- Least number of digits of an exponent. -/
  exponentWidth : Nat

/-- Numbers from a ten-thousandth up to ten to the sixteenth are written out, the others with an exponent
of at least two digits. -/
def FloatLayout.standard : FloatLayout :=
  { leastPoint := -3, greatestPoint := 16, exponentWidth := 2 }

/-- Digits with the point in place and at least one digit on each side of it. -/
def positional (ds : List Char) (point : Int) : List Char :=
  if point ≤ 0 then '0' :: '.' :: (List.replicate (-point).toNat '0' ++ ds)
  else if ds.length ≤ point.toNat then
    ds ++ List.replicate (point.toNat - ds.length) '0' ++ ['.', '0']
  else ds.take point.toNat ++ '.' :: ds.drop point.toNat

/-- Digits with one digit before the point, and the exponent with its sign. -/
def scientific (width : Nat) (ds : List Char) (point : Int) : List Char :=
  let e := point - 1
  let eDigits := Nat.toDigits 10 e.natAbs
  let head := match ds with
    | [d] => [d]
    | d :: rest => d :: '.' :: rest
    | [] => []
  head ++ 'e' :: (if e < 0 then '-' else '+') ::
    (List.replicate (width - eDigits.length) '0' ++ eDigits)

/-- The text of a number under a layout. -/
def FloatLayout.render (layout : FloatLayout) (x : Binary64) : String :=
  let sign := if x.isNegative then ['-'] else []
  if x.isNaN then "nan"
  else if !x.isFinite then String.ofList (sign ++ "inf".toList)
  else if x.isZero then String.ofList (sign ++ "0.0".toList)
  else
    let d := shortest x
    let ds := Nat.toDigits 10 d.digits
    String.ofList (sign ++
      if layout.leastPoint ≤ d.point ∧ d.point ≤ layout.greatestPoint then positional ds d.point
      else scientific layout.exponentWidth ds d.point)

/-- The text of a number in the standard layout. -/
def Binary64.text (x : Binary64) : String :=
  FloatLayout.standard.render x

end HostBridge.Number
