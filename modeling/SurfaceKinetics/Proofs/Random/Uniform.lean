import Mathlib.Tactic.Positivity
import SurfaceKinetics.Proofs.Quantity.Exact
import SurfaceKinetics.Proofs.Random.Drawing

/-!
# Uniform quantities

A uniform quantity is a whole number of 52 bits divided by the least one of 53
bits.  So it is not negative and below one, and what it leaves of one is positive
and at most one, whatever the source yields.
-/

namespace SurfaceKinetics.RandomSource

variable {α : Type} [ExactQuantity α]

theorem shiftRight_lt (word : UInt64) : (word >>> 12).toNat < twoTo 52 := by
  have wordBelow := word.toNat_lt
  rw [UInt64.toNat_shiftRight, Nat.shiftRight_eq_div_pow]
  show word.toNat / 2 ^ 12 < 2 ^ 52
  omega

theorem fraction_nonneg (word : UInt64) : (0 : α) ≤ fraction word := by
  rw [fraction, Quantity.ofNat_eq, Quantity.ofNat_eq]
  positivity

theorem fraction_lt_one (word : UInt64) : (fraction word : α) < 1 := by
  have positive : (0 : α) < (twoTo 52 : Nat) :=
    Nat.cast_pos.mpr (Nat.zero_lt_of_lt (shiftRight_lt word))
  rw [fraction, Quantity.ofNat_eq, Quantity.ofNat_eq, div_lt_one positive]
  exact Nat.cast_lt.mpr (shiftRight_lt word)

/-- The share that is left of one is positive and at most one. -/
theorem uniformOpen_mem :
    Surely (uniformOpen (α := α)) fun share => 0 < share ∧ share ≤ 1 := by
  intro source
  show
    0 < Quantity.ofNat 1 - fraction _ ∧ Quantity.ofNat 1 - fraction _ ≤ 1
  rw [Quantity.ofNat_eq, Nat.cast_one]
  exact
    ⟨sub_pos.mpr (fraction_lt_one _), sub_le_self 1 (fraction_nonneg _)⟩

end SurfaceKinetics.RandomSource
