/-!
# Decimal literals and binary64 values

A decimal literal is a sign, a natural number of digits and a power of ten.  A
binary64 value is taken apart into a sign, a significand and a power of two, so
that rounding and printing are exact arithmetic on natural numbers.

`Decimal.nearest` is the binary64 value nearest to a literal, halves going to
the even significand; literals beyond the largest finite value are infinite.
-/

namespace SurfaceKinetics

/-- A power of two. -/
def twoTo (exponent : Nat) : Nat := Nat.pow 2 exponent

/-- A power of ten. -/
def tenTo (exponent : Nat) : Nat := Nat.pow 10 exponent

/-- The number `digits * 10 ^ exponent`, negated when `negative` holds. -/
structure Decimal where
  negative : Bool
  digits : Nat
  exponent : Int
  deriving DecidableEq, Inhabited

/-- A binary64 value; a finite one is `significand * 2 ^ exponent` up to sign. -/
inductive Binary64 where
  | finite (negative : Bool) (significand : Nat) (exponent : Int)
  | infinite (negative : Bool)
  | undefined
  deriving DecidableEq, Inhabited

/-- The whole number nearest to a quotient; a half goes to the even neighbour. -/
def roundHalfEven (numerator denominator : Nat) : Nat :=
  let whole := numerator / denominator
  let twice := 2 * (numerator % denominator)
  if twice < denominator then whole
  else if denominator < twice then whole + 1
  else whole + whole % 2

namespace Binary64

/-- The least power of two of a finite value. -/
def leastExponent : Int := -1074

/-- The greatest power of two of a finite value. -/
def greatestExponent : Int := 971

/-- One more than the greatest significand. -/
def significandBound : Nat := twoTo 53

/-- The quotient divided by a power of two, again as a quotient. -/
def scaledDown
    (numerator denominator : Nat)
    (exponent : Int) :
    Nat × Nat :=
  (numerator * twoTo (-exponent).toNat, denominator * twoTo exponent.toNat)

/--
The power of two at which a positive quotient has a significand of 53 binary
places, or the least one for quotients too small for that.
-/
def exponentOf (numerator denominator : Nat) : Int :=
  let estimate :=
    max ((numerator.log2 : Int) - denominator.log2 - 53) leastExponent
  let scaled := scaledDown numerator denominator estimate
  if scaled.1 / scaled.2 < significandBound then estimate else estimate + 1

/-- The value nearest to a quotient; a half goes to the even significand. -/
def ofQuotient
    (negative : Bool)
    (numerator denominator : Nat) :
    Binary64 :=
  if numerator = 0 then
    finite negative 0 0
  else
    let exponent := exponentOf numerator denominator
    let scaled := scaledDown numerator denominator exponent
    let significand := roundHalfEven scaled.1 scaled.2
    let carried := significand = significandBound
    let significand := if carried then significand / 2 else significand
    let exponent := if carried then exponent + 1 else exponent
    if greatestExponent < exponent then
      infinite negative
    else
      finite negative significand exponent

/-- The bit pattern of a value: sign, exponent field and fraction. -/
def toBits : Binary64 → UInt64
  | undefined => 0x7FF8000000000000
  | infinite negative => sign negative ||| 0x7FF0000000000000
  | finite negative significand exponent =>
    let hidden := twoTo 52
    if significand < hidden then
      sign negative ||| UInt64.ofNat significand
    else
      sign negative |||
        UInt64.ofNat ((exponent + 1075).toNat * hidden + (significand - hidden))
where
  sign (negative : Bool) : UInt64 := if negative then 0x8000000000000000 else 0

def toFloat (value : Binary64) : Float := Float.ofBits value.toBits

/-- The value that a bit pattern stands for. -/
def ofBits (bits : UInt64) : Binary64 :=
  let negative := (bits >>> 63) == 1
  let field := ((bits >>> 52) &&& 0x7FF).toNat
  let fraction := (bits &&& 0xFFFFFFFFFFFFF).toNat
  if field = 0x7FF then
    if fraction = 0 then infinite negative else undefined
  else if field = 0 then
    finite negative fraction leastExponent
  else
    finite negative (twoTo 52 + fraction) ((field : Int) - 1075)

def ofFloat (value : Float) : Binary64 := ofBits value.toBits

/-- The whole number that a finite value equals, if it equals one. -/
def integer? : Binary64 → Option Int
  | finite negative significand exponent =>
    let divisor := twoTo (-exponent).toNat
    if significand % divisor = 0 then
      let size : Int := (significand / divisor * twoTo exponent.toNat : Nat)
      some (if negative then -size else size)
    else
      none
  | infinite _ => none
  | undefined => none

end Binary64

namespace Decimal

/-- Every literal at or above this power of ten is infinite unless it is zero. -/
def greatestPower : Int := 400

/-- Literals with fewer than this many binary places before the point are zero. -/
def leastBinaryPlaces : Int := -1200

/--
The binary64 value nearest to a literal.

The two tests before the quotient is formed keep its size within that of the
digits: a positive literal from `10 ^ 400` on exceeds the finite values, and one
below `2 ^ -1200` is less than half of the least positive value.
-/
def nearest (literal : Decimal) : Binary64 :=
  if literal.digits = 0 then
    .finite literal.negative 0 0
  else if greatestPower < literal.exponent then
    .infinite literal.negative
  else if literal.exponent < 0 ∧
      (literal.digits.log2 : Int) + 1 + 3 * literal.exponent <
        leastBinaryPlaces then
    .finite literal.negative 0 0
  else
    Binary64.ofQuotient literal.negative
      (literal.digits * tenTo literal.exponent.toNat)
      (tenTo (-literal.exponent).toNat)

end Decimal

end SurfaceKinetics
