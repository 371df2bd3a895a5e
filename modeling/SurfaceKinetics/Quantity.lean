import SurfaceKinetics.Decimal.Style

/-!
# Quantities

Rates, times, weights and conditions are quantities: numbers with the
arithmetic, the comparisons and the few functions that a simulation needs.  The
simulation is written for any of them; a program runs it on binary64 numbers,
where `emptySum` is `-0.0`, the neutral element of binary64 addition.
-/

namespace SurfaceKinetics

class Quantity (α : Type) extends
    Add α, Sub α, Mul α, Div α, Neg α, LT α, LE α where
  decidableLT : DecidableLT α
  decidableLE : DecidableLE α
  /-- The sum of no terms. -/
  emptySum : α
  ofInt : Int → α
  ofDecimal : Decimal → α
  exp : α → α
  ln : α → α
  sqrt : α → α
  floor : α → α
  /-- The ratio of a circle's circumference to its diameter. -/
  circleRatio : α
  isFinite : α → Bool
  isUndefined : α → Bool
  write : Style → α → String

namespace Quantity

attribute [reducible, instance] decidableLT decidableLE

variable {α : Type} [Quantity α]

/-- A natural number as a quantity. -/
def ofNat (number : Nat) : α := ofInt number

def zero : α := ofInt 0

def isPositive (value : α) : Bool := decide (zero < value)

def isNonnegative (value : α) : Bool := decide (zero ≤ value)

/-- The shortest text without exponent. -/
def plain (value : α) : String := write .plain value

/-- The text of a list of quantities, in brackets. -/
def writeList (values : List α) : String :=
  "[" ++ ", ".intercalate (values.map (write .listed)) ++ "]"

/-- The terms added from the left. -/
def sum (terms : List α) : α := terms.foldl (· + ·) emptySum

end Quantity

instance : Quantity Float where
  decidableLT := fun left right => inferInstanceAs (Decidable (left < right))
  decidableLE := fun left right => inferInstanceAs (Decidable (left ≤ right))
  emptySum := -0.0
  ofInt := Float.ofInt
  ofDecimal literal := literal.nearest.toFloat
  exp := Float.exp
  ln := Float.log
  sqrt := Float.sqrt
  floor := Float.floor
  circleRatio := 3.141592653589793
  isFinite := Float.isFinite
  isUndefined := Float.isNaN
  write style value := style.write (Binary64.ofFloat value)

end SurfaceKinetics
