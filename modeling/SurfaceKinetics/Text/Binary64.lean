import SurfaceKinetics.Text.Numeral

/-!
# Binary64 values in texts

A finite value is spelled by an optional sign, digits with at most one point
among them, and an optional exponent of `e` or `E`, an optional sign and digits;
neither part lacks its digits.  Infinite and undefined values are spelled `inf`,
`infinity` and `nan` in letters of any case, after an optional sign.
-/

namespace SurfaceKinetics

/-- The exponent that a text spells; the empty text spells zero. -/
def strictExponent? : List Char → Option Int
  | [] => some 0
  | mark :: rest =>
    let (negative, rest) := takeSign rest
    if (mark == 'e' || mark == 'E') && !rest.isEmpty && rest.all Char.isDigit then
      let size : Int := digitsValue rest
      some (if negative then -size else size)
    else
      none

/-- The finite value that a text without sign spells. -/
def finiteMagnitude? (negative : Bool) (text : List Char) : Option Binary64 :=
  let (whole, rest) := text.span Char.isDigit
  let (fraction, rest) := takeFraction rest
  if whole.isEmpty && fraction.isEmpty then
    none
  else
    (strictExponent? rest).map fun exponent =>
      Decimal.nearest
        { negative
          digits := digitsValue (whole ++ fraction)
          exponent := exponent - fraction.length }

/-- The value that a text spells. -/
def Binary64.ofText? (text : String) : Option Binary64 :=
  let (negative, rest) := takeSign text.toList
  match String.ofList (rest.map Char.toLower) with
  | "inf" => some (.infinite negative)
  | "infinity" => some (.infinite negative)
  | "nan" => some .undefined
  | _ => finiteMagnitude? negative rest

end SurfaceKinetics
