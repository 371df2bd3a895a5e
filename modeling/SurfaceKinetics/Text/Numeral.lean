import SurfaceKinetics.Short

/-!
# Numerals

A numeral is an optional sign, decimal digits with at most one point among them,
and an optional exponent: a marker from `eEdDfF`, an optional sign and digits.
There is at least one digit before the marker; the exponent may lack its digits
and then counts as zero.

`numeral?` reads a numeral as a decimal literal, and `integer?` as the whole
number that the nearest binary64 value equals, held within 64 bits.
-/

namespace SurfaceKinetics

/-- The number that decimal digits stand for. -/
def digitsValue (digits : List Char) : Nat :=
  digits.foldl (fun value digit => 10 * value + (digit.toNat - '0'.toNat)) 0

/-- The characters that start an exponent. -/
def isExponentMark (letter : Char) : Bool :=
  letter == 'e' || letter == 'E' || letter == 'd' || letter == 'D' ||
    letter == 'f' || letter == 'F'

/-- A leading sign, which is negative for a minus, and the rest. -/
def takeSign : List Char → Bool × List Char
  | '+' :: rest => (false, rest)
  | '-' :: rest => (true, rest)
  | text => (false, text)

/-- The digits after a leading point, and the rest. -/
def takeFraction : List Char → List Char × List Char
  | '.' :: rest => rest.span Char.isDigit
  | text => ([], text)

/-- The exponent that a text spells, if it is one or empty. -/
def exponent? : List Char → Option Int
  | [] => some 0
  | mark :: rest =>
    let (negative, rest) := takeSign rest
    let (digits, rest) := rest.span Char.isDigit
    if isExponentMark mark && rest.isEmpty then
      let size : Int := digitsValue digits
      some (if negative then -size else size)
    else
      none

/-- The decimal literal that a text spells, if it is a numeral. -/
def numeral? (text : String) : Option Decimal :=
  let (negative, rest) := takeSign text.toList
  let (whole, rest) := rest.span Char.isDigit
  let (fraction, rest) := takeFraction rest
  if whole.isEmpty && fraction.isEmpty then
    none
  else
    (exponent? rest).map fun exponent =>
      { negative
        digits := digitsValue (whole ++ fraction)
        exponent := exponent - fraction.length }

/-- Whether a text is a numeral. -/
def isNumeral (text : String) : Bool := (numeral? text).isSome

/-- The greatest whole number of 64 bits with sign. -/
def greatestInteger : Int := twoTo 63 - 1

/-- The least whole number of 64 bits with sign. -/
def leastInteger : Int := -twoTo 63

/-- The whole number that a numeral spells, held between the least and the greatest. -/
def integer? (text : String) : Option Int :=
  ((numeral? text).bind fun literal => literal.nearest.integer?).map fun value =>
    max leastInteger (min value greatestInteger)

/-- The natural number that a numeral spells. -/
def natural? (text : String) : Option Nat :=
  (integer? text).bind fun value => if 0 ≤ value then some value.toNat else none

end SurfaceKinetics
