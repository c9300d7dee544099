/-!
# Binary floating-point numbers

Numbers of sixty-four bits: a sign, eleven bits of exponent and fifty-two of fraction. They are kept as
their bits, so that equality of values is decidable and two not-a-numbers that came from different places
can stay apart. Conversion from exact fractions rounds to the nearest value, a tie to the even one.
-/

namespace HostBridge.Number

/-- A power of two. -/
def twoTo (n : Nat) : Nat := Nat.pow 2 n

/-- A power of ten. -/
def tenTo (n : Nat) : Nat := Nat.pow 10 n

theorem tenTo_succ (n : Nat) : tenTo (n + 1) = 10 * tenTo n := by
  simp [tenTo, Nat.pow_succ, Nat.mul_comm]

theorem tenTo_le_tenTo {m n : Nat} (le : m ≤ n) : tenTo m ≤ tenTo n :=
  Nat.pow_le_pow_right (by decide) le

/-- A floating-point number by its bits. -/
structure Binary64 where
  /-- Sign, exponent and fraction, from the highest bit down. -/
  bits : UInt64
deriving DecidableEq, Repr, Inhabited

namespace Binary64

/-- The machine number with these bits. -/
def toFloat (x : Binary64) : Float :=
  Float.ofBits x.bits

/-- The bits of a machine number. -/
def ofFloat (f : Float) : Binary64 :=
  ⟨f.toBits⟩

/-- Is the sign bit set? -/
def isNegative (x : Binary64) : Bool :=
  x.bits.toNat ≥ twoTo 63

/-- The exponent field. -/
def exponentField (x : Binary64) : Nat :=
  x.bits.toNat / twoTo 52 % twoTo 11

/-- The fraction field. -/
def fractionField (x : Binary64) : Nat :=
  x.bits.toNat % twoTo 52

/-- Infinities and not-a-numbers have all exponent bits set. -/
def isFinite (x : Binary64) : Bool :=
  x.exponentField != 2047

/-- Not a number: all exponent bits set and a fraction. -/
def isNaN (x : Binary64) : Bool :=
  x.exponentField == 2047 && x.fractionField != 0

/-- Either zero. -/
def isZero (x : Binary64) : Bool :=
  x.exponentField == 0 && x.fractionField == 0

/-- The integer `m` of a finite number `± m · 2 ^ q`. -/
def mantissa (x : Binary64) : Nat :=
  if x.exponentField = 0 then x.fractionField else twoTo 52 + x.fractionField

/-- The exponent `q` of a finite number `± m · 2 ^ q`. -/
def scale (x : Binary64) : Int :=
  if x.exponentField = 0 then -1074 else (x.exponentField : Int) - 1075

/-- Assemble a number from its fields. -/
def ofFields (negative : Bool) (exponent fraction : Nat) : Binary64 :=
  ⟨UInt64.ofNat ((if negative then twoTo 63 else 0) + exponent * twoTo 52 + fraction)⟩

/-- Infinity of either sign. -/
def infinity (negative : Bool) : Binary64 :=
  ofFields negative 2047 0

/-- The usual not-a-number. -/
def nan : Binary64 :=
  ofFields false 2047 (twoTo 51)

/-- A not-a-number that is told apart from others by `tag`. -/
def taggedNaN (tag : Nat) : Binary64 :=
  ofFields false 2047 (twoTo 51 + tag % twoTo 51)

/-- The integer nearest to `n / d`, a tie to the even one. -/
def roundQuotient (n d : Nat) : Nat :=
  let q := n / d
  let r := n % d
  if 2 * r < d then q else if 2 * r > d then q + 1 else if q % 2 = 0 then q else q + 1

/-- `n / d · 2 ^ e` as a fraction of two integers. -/
def scaled (n d : Nat) (e : Int) : Nat × Nat :=
  if 0 ≤ e then (n * twoTo e.toNat, d) else (n, d * twoTo (-e).toNat)

/-- The number nearest to `± n / d`, a tie to the even fraction; too large ones are infinite. -/
def ofRatio (negative : Bool) (n d : Nat) : Binary64 :=
  if n = 0 ∨ d = 0 then ofFields negative 0 0
  else
    let guess : Int := max ((n.log2 : Int) - d.log2 - 52) (-1074)
    let low := scaled n d (-guess)
    let q : Int := if low.1 < twoTo 52 * low.2 ∧ -1074 < guess then guess - 1 else guess
    let parts := scaled n d (-q)
    let m := roundQuotient parts.1 parts.2
    let (m, q) := if m = twoTo 53 then (twoTo 52, q + 1) else (m, q)
    if m < twoTo 52 then ofFields negative 0 m
    else if q + 1075 ≥ 2047 then infinity negative
    else ofFields negative (q + 1075).toNat (m - twoTo 52)

/-- The number nearest to an integer, if it is not too large for any. -/
def ofInt? (n : Int) : Option Binary64 :=
  let x := ofRatio (n < 0) n.natAbs 1
  if x.isFinite then some x else none

/-- Addition as the machine does it. -/
def add (x y : Binary64) : Binary64 :=
  ofFloat (x.toFloat + y.toFloat)

/-- Multiplication as the machine does it. -/
def mul (x y : Binary64) : Binary64 :=
  ofFloat (x.toFloat * y.toFloat)

/-- Equality of values: both zeros are equal, a not-a-number equals nothing. -/
def sameValue (x y : Binary64) : Bool :=
  !x.isNaN && !y.isNaN && (x == y || (x.isZero && y.isZero))

/-- Does the number have exactly the value of this integer? -/
def equalsInt (x : Binary64) (n : Int) : Bool :=
  x.isFinite && (x.isZero == (n == 0)) && (x.isZero || x.isNegative == (n < 0)) &&
    (let parts := scaled x.mantissa 1 x.scale
     parts.1 == n.natAbs * parts.2)

/-- The integer part of a finite number. -/
def truncate (x : Binary64) : Int :=
  let parts := scaled x.mantissa 1 x.scale
  let n : Nat := parts.1 / parts.2
  if x.isNegative then -(n : Int) else n

example : ofRatio false 1 10 = ⟨0x3fb999999999999a⟩ := by decide
example : ofRatio true 1 3 = ⟨0xbfd5555555555555⟩ := by decide
example : ofInt? (twoTo 53 + 1) = some ⟨0x4340000000000000⟩ := by decide

end Binary64

end HostBridge.Number
