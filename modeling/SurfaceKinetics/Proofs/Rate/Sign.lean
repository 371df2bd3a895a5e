import Mathlib.Tactic.Positivity
import SurfaceKinetics.Proofs.Quantity.Ordered
import SurfaceKinetics.SurfaceProcess.Basic

/-!
# Rates are not negative

A rate law without faults has parameters that are not negative, and those that are
divided by are positive; conditions without faults have a positive thermal energy
and a pressure that is not negative.  So no rate is negative, at any number of
occupied neighbours.
-/

namespace SurfaceKinetics

variable {α : Type} [OrderedQuantity α]

namespace Conditions

variable
    {conditions : Conditions α}
    (faultless : conditions.fault? = none)

include faultless

theorem temperature_pos : 0 < conditions.temperature := by
  rw [fault?] at faultless
  split at faultless
  · cases faultless
  · next accepted =>
      simp only [Quantity.isPositive, Quantity.zero_eq, Bool.not_eq_true',
        Bool.not_eq_false, Bool.and_eq_true, decide_eq_true_eq] at accepted
      exact accepted.2

theorem pressure_nonneg : 0 ≤ conditions.pressure := by
  rw [fault?] at faultless
  split at faultless
  · cases faultless
  · split at faultless
    · cases faultless
    · next accepted =>
        simp only [Quantity.isNonnegative, Quantity.zero_eq, Bool.not_eq_true',
          Bool.not_eq_false, Bool.and_eq_true, decide_eq_true_eq] at accepted
        exact accepted.2

theorem thermalEnergy_pos : 0 < conditions.thermalEnergy :=
  mul_pos Constants.boltzmann_pos (temperature_pos faultless)

end Conditions

namespace RateLaw

/-- All parameters of a law are not negative, and the divisors among them positive. -/
def Proper : RateLaw α → Prop
  | constant rate => 0 ≤ rate
  | hertzKnudsen sticking fraction siteDensity mass =>
    0 ≤ sticking ∧ 0 ≤ fraction ∧ 0 < siteDensity ∧ 0 < mass
  | arrhenius frequency energy => 0 ≤ frequency ∧ 0 ≤ energy
  | diffusionArrhenius frequency adsorptionEnergy diffusionEnergy =>
    0 ≤ frequency ∧ 0 ≤ adsorptionEnergy ∧ 0 ≤ diffusionEnergy

theorem nonneg_of_parameterFault?
    {parameter : RateParameter}
    {value : α}
    (faultless : parameterFault? parameter value = none) :
    0 ≤ value := by
  rw [parameterFault?] at faultless
  split at faultless
  · cases faultless
  · next accepted =>
      simp only [Quantity.zero_eq, Bool.or_eq_true, Bool.not_eq_true',
        decide_eq_true_eq, not_or, not_lt] at accepted
      exact accepted.2

/-- The checks of a law leave proper parameters. -/
theorem proper_of_fault? {law : RateLaw α} (faultless : law.fault? = none) :
    law.Proper := by
  cases law with
  | constant rate => exact nonneg_of_parameterFault? faultless
  | hertzKnudsen sticking fraction siteDensity mass =>
      rw [fault?, Option.or_eq_none_iff, Option.or_eq_none_iff] at faultless
      rcases faultless with ⟨stickingFaultless, fractionFaultless, others⟩
      refine
        ⟨nonneg_of_parameterFault? stickingFaultless,
          nonneg_of_parameterFault? fractionFaultless, ?_⟩
      split at others
      · cases others
      · next dense =>
          split at others
          · cases others
          · next heavy =>
              simp only [Quantity.isPositive, Quantity.zero_eq,
                Bool.not_eq_true', Bool.not_eq_false, Bool.and_eq_true,
                decide_eq_true_eq] at dense heavy
              exact ⟨dense.2, heavy.2⟩
  | arrhenius frequency energy =>
      rw [fault?, Option.or_eq_none_iff] at faultless
      exact faultless.imp nonneg_of_parameterFault? nonneg_of_parameterFault?
  | diffusionArrhenius frequency adsorptionEnergy diffusionEnergy =>
      rw [fault?, Option.or_eq_none_iff, Option.or_eq_none_iff] at faultless
      exact
        faultless.imp nonneg_of_parameterFault?
          (And.imp nonneg_of_parameterFault? nonneg_of_parameterFault?)

theorem boltzmannFactor_pos
    (conditions : Conditions α)
    (bonds energy : α) :
    0 < boltzmannFactor conditions bonds energy :=
  OrderedQuantity.exp_pos _

/-- What a flux has under its root is positive. -/
theorem flux_pos
    {mass thermal : α}
    (massPos : 0 < mass)
    (thermalPos : 0 < thermal) :
    0 < Quantity.ofNat 2 * Quantity.circleRatio * mass * thermal := by
  have circleRatio_pos := OrderedQuantity.circleRatio_pos (α := α)
  rw [Quantity.ofNat_eq]
  positivity

/-- A law without faults gives no negative rate. -/
theorem siteRate_nonneg
    {law : RateLaw α}
    (lawFaultless : law.fault? = none)
    {conditions : Conditions α}
    (faultless : conditions.fault? = none)
    (occupiedNeighbours : Nat) :
    0 ≤ law.siteRate conditions occupiedNeighbours := by
  have proper := proper_of_fault? lawFaultless
  cases law with
  | constant rate => exact proper
  | hertzKnudsen sticking fraction siteDensity mass =>
      rcases proper with ⟨stickingNonneg, fractionNonneg, dense, heavy⟩
      have pressureNonneg := Conditions.pressure_nonneg faultless
      have speedPos :=
        OrderedQuantity.sqrt_pos
          (flux_pos heavy (Conditions.thermalEnergy_pos faultless))
      exact
        div_nonneg
          (mul_nonneg (mul_nonneg stickingNonneg fractionNonneg)
            pressureNonneg)
          (mul_pos dense speedPos).le
  | arrhenius frequency energy =>
      exact mul_nonneg proper.1 (boltzmannFactor_pos _ _ _).le
  | diffusionArrhenius frequency adsorptionEnergy diffusionEnergy =>
      exact
        mul_nonneg (mul_nonneg proper.1 (OrderedQuantity.exp_pos _).le)
          (boltzmannFactor_pos _ _ _).le

end RateLaw

theorem SurfaceProcess.rate_nonneg
    {process : SurfaceProcess α}
    (processFaultless : process.fault? = none)
    {conditions : Conditions α}
    (faultless : conditions.fault? = none)
    (lattice : Lattice)
    (site : Nat) :
    0 ≤ process.rate conditions lattice site := by
  rw [fault?] at processFaultless
  split at processFaultless
  · rw [Option.map_eq_none_iff] at processFaultless
    exact process.rateLaw.siteRate_nonneg processFaultless faultless _
  · cases processFaultless

end SurfaceKinetics
