import Mathlib.Algebra.BigOperators.Group.List.Basic
import Mathlib.Algebra.Order.Floor.Ring
import Mathlib.Algebra.Order.Ring.Star
import Mathlib.Analysis.SpecialFunctions.Log.Basic
import Mathlib.Analysis.SpecialFunctions.Trigonometric.Basic
import Mathlib.Data.Rat.Floor
import SurfaceKinetics.Proofs.Decimal.Letters
import SurfaceKinetics.Proofs.Quantity.Ordered

/-!
# Exact quantities

Quantities are exact when they are the numbers of an ordered field and are added,
multiplied and compared as such.  Then sums do not depend on zeros among their
terms, whole numbers and decimal literals have their values, and every quantity
is finite.  Of the elementary functions no more is known than their signs and
that the exponential function does not decrease.

The real numbers are exact quantities.  So are the rational numbers with simple
rational functions in place of the elementary ones; with these a simulation can
be evaluated exactly.
-/

namespace SurfaceKinetics

/-- Quantities without rounding. -/
class ExactQuantity (α : Type) extends
    Quantity α, Field α, LinearOrder α, IsStrictOrderedRing α where
  emptySum_eq : (emptySum : α) = 0
  ofInt_eq (number : Int) : (ofInt number : α) = number
  ofDecimal_eq (literal : Decimal) : (ofDecimal literal : α) = literal.value
  exp_pos (value : α) : 0 < exp value
  exp_mono {lesser greater : α} : lesser ≤ greater → exp lesser ≤ exp greater
  ln_nonpos {value : α} : 0 < value → value ≤ 1 → ln value ≤ 0
  sqrt_pos {value : α} : 0 < value → 0 < sqrt value
  floor_eq (value : α) :
    ∃ whole : Int,
      floor value = (whole : α) ∧ (whole : α) ≤ value ∧ value < whole + 1
  circleRatio_pos : (0 : α) < circleRatio
  isFinite_eq (value : α) : isFinite value = true
  isUndefined_eq (value : α) : isUndefined value = false

instance {α : Type} [exact : ExactQuantity α] : OrderedQuantity α where
  __ := exact

namespace Quantity

variable {α : Type} [ExactQuantity α]

/-- Exact sums are sums of a field. -/
theorem sum_eq (terms : List α) : sum terms = terms.sum := by
  have added :
      ∀ start : α, terms.foldl (· + ·) start = start + terms.sum := by
    induction terms with
    | nil => exact fun start => (add_zero start).symm
    | cons first rest induction =>
        intro start
        rw [List.foldl_cons, induction, List.sum_cons, add_assoc]
  rw [sum, ExactQuantity.emptySum_eq, added, zero_add]

end Quantity

/-! ## Real and rational numbers -/

/-- Real numbers are compared and computed with, and never written. -/
noncomputable instance : ExactQuantity ℝ where
  __ := (inferInstance : Field ℝ)
  __ := (inferInstance : LinearOrder ℝ)
  __ := (inferInstance : IsStrictOrderedRing ℝ)
  decidableLT := fun left right => inferInstanceAs (Decidable (left < right))
  decidableLE := fun left right => inferInstanceAs (Decidable (left ≤ right))
  emptySum := 0
  ofInt := Int.cast
  ofDecimal := Decimal.value
  exp := Real.exp
  ln := Real.log
  sqrt := Real.sqrt
  floor value := (⌊value⌋ : ℝ)
  circleRatio := Real.pi
  isFinite _ := true
  isUndefined _ := false
  write _ _ := ""
  emptySum_eq := rfl
  ofInt_eq _ := rfl
  ofDecimal_eq _ := rfl
  exp_pos := Real.exp_pos
  exp_mono := Real.exp_le_exp.mpr
  ln_nonpos positive le := Real.log_nonpos positive.le le
  sqrt_pos := Real.sqrt_pos.mpr
  floor_eq value := ⟨⌊value⌋, rfl, Int.floor_le value, Int.lt_floor_add_one value⟩
  circleRatio_pos := Real.pi_pos
  isFinite_eq _ := rfl
  isUndefined_eq _ := rfl

/-- The tangent of the exponential function at zero, bent to stay positive. -/
def bentTangent (value : ℚ) : ℚ :=
  if 0 ≤ value then 1 + value else 1 / (1 - value)

theorem bentTangent_pos (value : ℚ) : 0 < bentTangent value := by
  rw [bentTangent]
  split
  · positivity
  · next negative =>
      have below : value < 1 := (not_le.mp negative).trans one_pos
      exact one_div_pos.mpr (sub_pos.mpr below)

theorem bentTangent_mono {lesser greater : ℚ} (le : lesser ≤ greater) :
    bentTangent lesser ≤ bentTangent greater := by
  rw [bentTangent, bentTangent]
  split
  · next positive =>
      rw [if_pos (positive.trans le)]
      exact add_le_add_right le 1
  · next negative =>
      rw [not_le] at negative
      split
      · next positive =>
          calc
            1 / (1 - lesser) ≤ 1 := by
              rw [div_le_one (by linarith)]
              linarith
            1 ≤ 1 + greater := le_add_of_nonneg_right positive
      · next negativeToo =>
          rw [not_le] at negativeToo
          exact one_div_le_one_div_of_le (by linarith) (by linarith)

/-- The nearest binary64 number to a rational one, or the greatest of the same sign. -/
def Binary64.ofRational (value : ℚ) : Binary64 :=
  match ofQuotient (value < 0) value.num.natAbs value.den with
  | .finite negative significand exponent => .finite negative significand exponent
  | _ => .finite (value < 0) (significandBound - 1) greatestExponent

theorem Binary64.exists_ofRational_eq (value : ℚ) :
    ∃ negative significand exponent,
      ofRational value = .finite negative significand exponent := by
  rw [ofRational]
  split
  · exact ⟨_, _, _, rfl⟩
  · exact ⟨_, _, _, rfl⟩

/--
Rational numbers, with bounds of the logarithm and of the square root in place
of these, and written as binary64 numbers near to them are.
-/
instance : ExactQuantity ℚ where
  __ := (inferInstance : Field ℚ)
  __ := (inferInstance : LinearOrder ℚ)
  __ := (inferInstance : IsStrictOrderedRing ℚ)
  decidableLT := fun left right => inferInstanceAs (Decidable (left < right))
  decidableLE := fun left right => inferInstanceAs (Decidable (left ≤ right))
  emptySum := 0
  ofInt := Int.cast
  ofDecimal := Decimal.value
  exp := bentTangent
  ln value := value - 1
  sqrt value := (1 + value) / 2
  floor value := (⌊value⌋ : ℚ)
  circleRatio := 355 / 113
  isFinite _ := true
  isUndefined _ := false
  write style value := style.write (Binary64.ofRational value)
  emptySum_eq := rfl
  ofInt_eq _ := rfl
  ofDecimal_eq _ := rfl
  exp_pos := bentTangent_pos
  exp_mono := bentTangent_mono
  ln_nonpos _ le := sub_nonpos.mpr le
  sqrt_pos positive := by positivity
  floor_eq value := ⟨⌊value⌋, rfl, Int.floor_le value, Int.lt_floor_add_one value⟩
  circleRatio_pos := by norm_num
  isFinite_eq _ := rfl
  isUndefined_eq _ := rfl

instance : DecimalLetters ℚ where
  of_mem_write {style} unscaled {number} _ {letter} member := by
    rcases Binary64.exists_ofRational_eq number with
      ⟨negative, significand, exponent, near⟩
    have written :
        Quantity.write style number =
          style.write (.finite negative significand exponent) :=
      congrArg style.write near
    rw [written] at member
    exact isDecimalLetter_of_mem_finite unscaled member

end SurfaceKinetics
