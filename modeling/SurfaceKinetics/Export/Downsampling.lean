/-!
# Downsampling

Which rows are kept when a table is thinned out to a number of rows.  The rows
are spread evenly, the first and the last among them; a position between two
rows goes to the nearer one, and a half to the later one.
-/

namespace SurfaceKinetics.Downsampling

/-- The whole number nearest to a quotient; a half goes up. -/
def roundHalfUp (numerator denominator : Nat) : Nat :=
  (2 * numerator + denominator) / (2 * denominator)

/-- The row nearest to an evenly spread position. -/
def position (length count place : Nat) : Nat :=
  roundHalfUp (place * (length - 1)) (count - 1)

/-- A list without neighbours that repeat each other. -/
def withoutRepeats : List Nat → List Nat
  | [] => []
  | first :: rest =>
    match withoutRepeats rest with
    | [] => [first]
    | next :: others =>
      if first = next then next :: others else first :: next :: others

/-- The rows that are kept of a table of some length. -/
def indices (length : Nat) (count : Option Nat) : List Nat :=
  match count with
  | none => List.range length
  | some count =>
    if 2 ≤ count ∧ count < length then
      withoutRepeats ((List.range count).map (position length count))
    else if count = 1 ∧ 1 < length then
      [length - 1]
    else
      List.range length

end SurfaceKinetics.Downsampling
