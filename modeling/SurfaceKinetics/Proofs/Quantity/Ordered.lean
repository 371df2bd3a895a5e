import Mathlib.Algebra.Order.Field.Power
import SurfaceKinetics.Constants

/-!
# Quantities of an ordered field

Quantities may be the numbers of an ordered field, added, multiplied and compared
as such, in which whole numbers and decimal literals have their values.  Of the
exponential function no more is known than that it is positive and does not
decrease, and of the square root that it is positive on positive numbers.
-/

namespace SurfaceKinetics

/-- The number that a decimal literal stands for. -/
def Decimal.value {α : Type} [Field α] (literal : Decimal) : α :=
  (if literal.negative then -1 else 1) * literal.digits * 10 ^ literal.exponent

/-- Quantities that are computed with as in an ordered field. -/
class OrderedQuantity (α : Type) extends
    Quantity α, Field α, LinearOrder α, IsStrictOrderedRing α where
  ofInt_eq (number : Int) : (ofInt number : α) = number
  ofDecimal_eq (literal : Decimal) : (ofDecimal literal : α) = literal.value
  exp_pos (value : α) : 0 < exp value
  exp_mono {lesser greater : α} : lesser ≤ greater → exp lesser ≤ exp greater
  sqrt_pos {value : α} : 0 < value → 0 < sqrt value
  circleRatio_pos : (0 : α) < circleRatio

variable {α : Type} [OrderedQuantity α]

namespace Quantity

@[simp]
theorem zero_eq : (zero : α) = 0 := by
  rw [zero, OrderedQuantity.ofInt_eq, Int.cast_zero]

@[simp]
theorem ofNat_eq (number : Nat) : (ofNat number : α) = number := by
  rw [ofNat, OrderedQuantity.ofInt_eq, Int.cast_natCast]

end Quantity

/-- A literal without sign is positive when its digits are. -/
theorem Decimal.value_pos
    {literal : Decimal}
    (unsigned : literal.negative = false)
    (digits : 0 < literal.digits) :
    (0 : α) < literal.value := by
  have positive : (0 : α) < literal.digits := Nat.cast_pos.mpr digits
  rw [value, unsigned, if_neg Bool.false_ne_true, one_mul]
  exact mul_pos positive (zpow_pos (by norm_num) _)

namespace Constants

theorem boltzmann_pos : (0 : α) < boltzmann := by
  rw [boltzmann, OrderedQuantity.ofDecimal_eq]
  exact Decimal.value_pos rfl (by decide)

theorem avogadro_pos : (0 : α) < avogadro := by
  rw [avogadro, OrderedQuantity.ofDecimal_eq]
  exact Decimal.value_pos rfl (by decide)

theorem perParticle_nonneg {molar : α} (nonneg : 0 ≤ molar) :
    0 ≤ perParticle molar :=
  div_nonneg nonneg avogadro_pos.le

end Constants

end SurfaceKinetics
