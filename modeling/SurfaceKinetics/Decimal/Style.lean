import SurfaceKinetics.Decimal.Shortest

/-!
# Decimal notations

Five ways of writing a binary64 value.  Three of them use the fewest digits that
read back: `plain` never has an exponent, `scientific` always has one, and
`listed` is the form inside lists, which marks whole numbers by `.0` and has an
exponent below `1e-4` and from `1e16` on.  The two others round the exact value,
halves to even, to a number of places after the point or after the first digit.

An undefined value is written `NaN` and an infinite one `inf`.
-/

namespace SurfaceKinetics

/-- A way of writing a number in decimal. -/
inductive Style where
  | plain
  | listed
  | scientific
  | places (count : Nat)
  | significant (count : Nat)
  deriving DecidableEq

namespace Style

/-- The decimal digits of a natural number. -/
def digitsOf (number : Nat) : List Char := Nat.toDigits 10 number

def zeros (count : Nat) : List Char := List.replicate count '0'

/--
Digits times a power of ten without an exponent: zeros follow the digits, or
the last digits stand behind a point with at least one digit before it.
-/
def positional (digits : List Char) (power : Int) : List Char :=
  if 0 ≤ power then
    digits ++ zeros power.toNat
  else
    let behind := (-power).toNat
    let padded := zeros (behind + 1 - digits.length) ++ digits
    let ahead := padded.length - behind
    padded.take ahead ++ '.' :: padded.drop ahead

/-- A whole number in decimal, with a sign when it is negative. -/
def signed (number : Int) : List Char :=
  if number < 0 then '-' :: digitsOf number.natAbs else digitsOf number.natAbs

/-- A whole number in decimal, as a text. -/
def signedText (number : Int) : String := String.ofList (signed number)

/-- One digit before the point, the others after it, and the exponent. -/
def exponential (digits : List Char) (power : Int) : List Char :=
  let exponent := power + digits.length - 1
  match digits with
  | [] => []
  | [digit] => digit :: 'e' :: signed exponent
  | digit :: rest => digit :: '.' :: rest ++ 'e' :: signed exponent

/-- Whole numbers carry `.0`; very small and very large ones an exponent. -/
def listing (digits : List Char) (power : Int) : List Char :=
  let exponent := power + digits.length - 1
  if exponent < -4 ∨ 16 ≤ exponent then
    exponential digits power
  else if 0 ≤ power then
    positional digits power ++ ['.', '0']
  else
    positional digits power

/-- A quotient rounded to `count` places after the point. -/
def roundedPlaces (count numerator denominator : Nat) : List Char :=
  positional
    (digitsOf (roundHalfEven (numerator * tenTo count) denominator))
    (-count)

/-- A positive quotient rounded to `count` places after its first digit. -/
def roundedSignificant (count numerator denominator : Nat) : List Char :=
  let power := (count : Int) - Binary64.decade numerator denominator
  let rounded :=
    roundHalfEven
      (numerator * tenTo power.toNat)
      (denominator * tenTo (-power).toNat)
  if rounded = tenTo (count + 1) then
    exponential (digitsOf (rounded / 10)) (1 - power)
  else
    exponential (digitsOf rounded) (-power)

/-- A finite value up to its sign. -/
def magnitude
    (style : Style)
    (significand : Nat)
    (exponent : Int) :
    List Char :=
  if significand = 0 then
    match style with
    | plain => ['0']
    | listed => ['0', '.', '0']
    | scientific => ['0', 'e', '0']
    | places count => positional ['0'] (-count)
    | significant count => exponential (zeros (count + 1)) (-count)
  else
    let numerator := significand * twoTo exponent.toNat
    let denominator := twoTo (-exponent).toNat
    let shortest := Binary64.shortest significand exponent
    match style with
    | plain => positional (digitsOf shortest.1) shortest.2
    | listed => listing (digitsOf shortest.1) shortest.2
    | scientific => exponential (digitsOf shortest.1) shortest.2
    | places count => roundedPlaces count numerator denominator
    | significant count => roundedSignificant count numerator denominator

/-- The text of a binary64 value; the sign of a zero is kept. -/
def write (style : Style) : Binary64 → String
  | .undefined => "NaN"
  | .infinite negative => if negative then "-inf" else "inf"
  | .finite negative significand exponent =>
    let text := style.magnitude significand exponent
    String.ofList (if negative then '-' :: text else text)

end Style

end SurfaceKinetics
