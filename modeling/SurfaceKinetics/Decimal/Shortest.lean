import SurfaceKinetics.Decimal.Binary64

/-!
# The fewest digits that read back

A positive binary64 value is the nearest one to every number of an interval
around it.  `Binary64.shortest` looks on the grids of one, two, three, ...
decimal digits for a point of that interval and takes the first grid that has
one; of two points the nearer wins, and a tie goes to the larger.

Seventeen digits always suffice.
-/

namespace SurfaceKinetics

namespace Binary64

/--
The interval of numbers that round to a value, as three numerators over one
denominator: the lower end, the value and the upper end.
-/
structure Neighbourhood where
  lower : Nat
  value : Nat
  upper : Nat
  denominator : Nat
  closed : Bool

/--
Half a unit on both sides, except below a power of two, where the next smaller
value is only half as far away.  The ends belong to the interval when the
significand is even.
-/
def neighbourhood (significand : Nat) (exponent : Int) : Neighbourhood :=
  let quarter := twoTo exponent.toNat
  let belowIsNarrow := significand = twoTo 52 ∧ leastExponent < exponent
  { lower := (4 * significand - (if belowIsNarrow then 1 else 2)) * quarter
    value := 4 * significand * quarter
    upper := (4 * significand + 2) * quarter
    denominator := 4 * twoTo (-exponent).toNat
    closed := significand % 2 = 0 }

/-- The interval after multiplication by a power of ten. -/
def Neighbourhood.shifted
    (around : Neighbourhood)
    (power : Int) :
    Neighbourhood :=
  let factor := tenTo power.toNat
  { lower := around.lower * factor
    value := around.value * factor
    upper := around.upper * factor
    denominator := around.denominator * tenTo (-power).toNat
    closed := around.closed }

/-- Whether a whole number lies in the interval. -/
def Neighbourhood.contains (around : Neighbourhood) (point : Nat) : Bool :=
  let place := point * around.denominator
  if around.closed then
    around.lower ≤ place && place ≤ around.upper
  else
    around.lower < place && place < around.upper

/-- The whole number of the interval nearest to its value, if there is one. -/
def Neighbourhood.nearestPoint? (around : Neighbourhood) : Option Nat :=
  let below := around.value / around.denominator
  let above := below + 1
  let tendsUp :=
    around.denominator ≤ 2 * (around.value % around.denominator)
  match around.contains below, around.contains above with
  | true, true => some (if tendsUp then above else below)
  | true, false => some below
  | false, true => some above
  | false, false => none

/-- The power of ten at or below a positive quotient. -/
def decade (numerator denominator : Nat) : Int :=
  let binary : Int := (numerator.log2 : Int) - denominator.log2
  let estimate := (binary * 30103).fdiv 100000
  if reaches (estimate + 1) then estimate + 1
  else if reaches estimate then estimate
  else estimate - 1
where
  reaches (power : Int) : Bool :=
    denominator * tenTo power.toNat ≤ numerator * tenTo (-power).toNat

/-- The first grid, from `count` digits on, with a point in the interval. -/
def shortestFrom
    (around : Neighbourhood)
    (top : Int) :
    Nat → Nat → Nat × Int
  | 0, count =>
    let power := (count : Int) - 1 - top
    let shifted := around.shifted power
    (roundHalfEven shifted.value shifted.denominator, -power)
  | more + 1, count =>
    let power := (count : Int) - 1 - top
    match (around.shifted power).nearestPoint? with
    | some point =>
      if point = tenTo count then (1, count - power) else (point, -power)
    | none => shortestFrom around top more (count + 1)

/-- The digits and power of ten of the shortest decimal that reads back. -/
def shortest (significand : Nat) (exponent : Int) : Nat × Int :=
  let around := neighbourhood significand exponent
  shortestFrom around (decade around.value around.denominator) 16 1

end Binary64

end SurfaceKinetics
