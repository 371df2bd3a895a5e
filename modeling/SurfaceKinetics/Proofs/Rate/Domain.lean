import Mathlib.Tactic.NormNum
import SurfaceKinetics.Proofs.Quantity.Exact
import SurfaceKinetics.Proofs.Quantity.Guarded
import SurfaceKinetics.Proofs.Rate.Sign
import SurfaceKinetics.Proofs.SurfaceProcess.Bindability

/-!
# The domain of rates

A rate is computed with divisions and a square root.  The checks of a law and of
the conditions cover them all: the thermal energy, the density of sites and the
mass under the root are positive, so a rate that is computed with guarded quantities
is defined and is the rate that is computed without guards.

A barrier grows with the number of occupied neighbours, or does not depend on it, so
a rate does not grow with that number.  Only the prefactor of a diffusion has an
exponent of either sign, and it is the same at all sites.
-/

namespace SurfaceKinetics

variable {α : Type}

/-- The conditions as guarded quantities. -/
def Conditions.guarded (conditions : Conditions α) : Conditions (Guarded α) where
  temperature := .defined conditions.temperature
  pressure := .defined conditions.pressure

/-- The law with guarded parameters. -/
def RateLaw.guarded : RateLaw α → RateLaw (Guarded α)
  | constant rate => constant (.defined rate)
  | hertzKnudsen sticking fraction siteDensity mass =>
    hertzKnudsen (.defined sticking) (.defined fraction) (.defined siteDensity)
      (.defined mass)
  | arrhenius frequency energy => arrhenius (.defined frequency) (.defined energy)
  | diffusionArrhenius frequency adsorptionEnergy diffusionEnergy =>
    diffusionArrhenius (.defined frequency) (.defined adsorptionEnergy)
      (.defined diffusionEnergy)

variable [OrderedQuantity α]

theorem Conditions.thermalEnergy_guarded (conditions : Conditions α) :
    conditions.guarded.thermalEnergy = .defined conditions.thermalEnergy := by
  rw [thermalEnergy, guarded, Guarded.boltzmann_eq, Guarded.defined_mul,
    thermalEnergy]

namespace RateLaw

/-- A factor is defined at a thermal energy that is not zero. -/
theorem boltzmannFactor_guarded
    {conditions : Conditions α}
    (thermalPos : 0 < conditions.thermalEnergy)
    (bonds energy : α) :
    boltzmannFactor conditions.guarded (.defined bonds) (.defined energy) =
      .defined (boltzmannFactor conditions bonds energy) := by
  rw [boltzmannFactor, conditions.thermalEnergy_guarded,
    Guarded.perParticle_defined, Guarded.neg_defined, Guarded.defined_mul,
    Guarded.defined_div thermalPos.ne', Guarded.exp_defined, boltzmannFactor]

variable
    {law : RateLaw α}
    (proper : law.Proper)
    {conditions : Conditions α}
    (thermalPos : 0 < conditions.thermalEnergy)
    (occupiedNeighbours : Nat)

include proper thermalPos

/-- No operation leaves its domain on the way to a rate. -/
theorem siteRate_guarded :
    law.guarded.siteRate conditions.guarded occupiedNeighbours =
      .defined (law.siteRate conditions occupiedNeighbours) := by
  cases law with
  | constant rate => rfl
  | hertzKnudsen sticking fraction siteDensity mass =>
      rcases proper with ⟨_, _, dense, heavy⟩
      have rootPos := flux_pos heavy thermalPos
      have divisorPos := mul_pos dense (OrderedQuantity.sqrt_pos rootPos)
      simp only [guarded, siteRate, conditions.thermalEnergy_guarded,
        Guarded.ofNat_eq, Guarded.circleRatio_eq, Guarded.defined_mul,
        Guarded.sqrt_defined rootPos]
      exact Guarded.defined_div divisorPos.ne' _
  | arrhenius frequency energy =>
      simp only [guarded, siteRate, Guarded.ofNat_eq,
        boltzmannFactor_guarded thermalPos, Guarded.defined_mul]
  | diffusionArrhenius frequency adsorptionEnergy diffusionEnergy =>
      simp only [guarded, siteRate, conditions.thermalEnergy_guarded,
        Guarded.ofNat_eq, Guarded.defined_sub, Guarded.perParticle_defined,
        Guarded.defined_div thermalPos.ne', Guarded.exp_defined,
        boltzmannFactor_guarded thermalPos, Guarded.defined_mul]

/-! ## Coordination -/

omit proper in
/-- A factor does not grow with the number of bonds. -/
theorem boltzmannFactor_anti
    {energy : α}
    (energyNonneg : 0 ≤ energy)
    {fewer more : α}
    (le : fewer ≤ more) :
    boltzmannFactor conditions more energy ≤
      boltzmannFactor conditions fewer energy := by
  have shareNonneg := Constants.perParticle_nonneg energyNonneg
  apply OrderedQuantity.exp_mono
  apply div_le_div_of_nonneg_right _ thermalPos.le
  exact mul_le_mul_of_nonneg_right (neg_le_neg le) shareNonneg

/-- One more occupied neighbour does not make a rate greater. -/
theorem siteRate_succ_le :
    law.siteRate conditions (occupiedNeighbours + 1) ≤
      law.siteRate conditions occupiedNeighbours := by
  have moreBonds :
      (Quantity.ofNat (occupiedNeighbours + 1) : α) ≤
        Quantity.ofNat (occupiedNeighbours + 1 + 1) := by
    rw [Quantity.ofNat_eq, Quantity.ofNat_eq]
    exact Nat.cast_le.mpr (Nat.le_succ _)
  cases law with
  | constant rate => exact le_rfl
  | hertzKnudsen sticking fraction siteDensity mass => exact le_rfl
  | arrhenius frequency energy =>
      exact
        mul_le_mul_of_nonneg_left
          (boltzmannFactor_anti thermalPos proper.2 moreBonds) proper.1
  | diffusionArrhenius frequency adsorptionEnergy diffusionEnergy =>
      have prefactorNonneg :
          0 ≤
            frequency *
              Quantity.exp
                (Constants.perParticle (adsorptionEnergy - diffusionEnergy) /
                  conditions.thermalEnergy) :=
        mul_nonneg proper.1 (OrderedQuantity.exp_pos _).le
      exact
        mul_le_mul_of_nonneg_left
          (boltzmannFactor_anti thermalPos proper.2.1 moreBonds)
          prefactorNonneg

end RateLaw

/--
Under conditions without faults, and for a law that has no fault or was selected,
the rate is computed without a division by zero and without a root of a number that
is not positive.  It is not negative and does not grow with the number of occupied
neighbours.
-/
theorem rates_stay_in_domain
    {conditions : Conditions α}
    (conditionsFaultless : conditions.fault? = none)
    {law : RateLaw α}
    (accepted :
      law.fault? = none ∨
        ∃ name category energetics mass,
          RateLaw.select name category energetics mass = .ok law)
    (occupiedNeighbours : Nat) :
    law.guarded.siteRate conditions.guarded occupiedNeighbours =
        .defined (law.siteRate conditions occupiedNeighbours) ∧
      0 ≤ law.siteRate conditions occupiedNeighbours ∧
        law.siteRate conditions (occupiedNeighbours + 1) ≤
          law.siteRate conditions occupiedNeighbours := by
  have faultless : law.fault? = none := by
    rcases accepted with faultless | ⟨name, category, energetics, mass, selected⟩
    · exact faultless
    · exact RateLaw.fault?_of_select selected
  have proper := RateLaw.proper_of_fault? faultless
  have thermalPos := Conditions.thermalEnergy_pos conditionsFaultless
  refine ⟨?_, ?_, ?_⟩
  · exact RateLaw.siteRate_guarded proper thermalPos occupiedNeighbours
  · exact law.siteRate_nonneg faultless conditionsFaultless occupiedNeighbours
  · exact RateLaw.siteRate_succ_le proper thermalPos occupiedNeighbours

/-- Atmospheric pressure above a hot surface. -/
def hotAtmosphere : Conditions ℚ := { temperature := 800, pressure := 101325 }

/-- A frequency and the energies of a hop that is held back rather than helped. -/
def reluctantEnergetics : Energetics ℚ where
  values := [10000000000000, 40000, 80000]
  options := ["arrhenius"]

/-- A hop whose prefactor has a negative exponent. -/
def reluctantHop : RateLaw ℚ := .diffusionArrhenius 10000000000000 40000 80000

/-- The impingement of a gas of light particles. -/
def lightFlux : RateLaw ℚ := .hertzKnudsen 1 (1 / 2) 10000000000000000000 (1 / 1000)

theorem rates_stay_in_domain_hop :
    hotAtmosphere.fault? = none ∧
      RateLaw.select "Diffusion0" .diffusion reluctantEnergetics 0 =
        .ok reluctantHop ∧
        reluctantHop.guarded.siteRate hotAtmosphere.guarded 3 =
          .defined (reluctantHop.siteRate hotAtmosphere 3) ∧
          reluctantHop.siteRate hotAtmosphere 4 ≤
            reluctantHop.siteRate hotAtmosphere 3 ∧
            lightFlux.fault? = none ∧
              lightFlux.guarded.siteRate hotAtmosphere.guarded 0 =
                .defined (lightFlux.siteRate hotAtmosphere 0) := by
  have faultless : hotAtmosphere.fault? = none := by decide +kernel
  have selected :
      RateLaw.select "Diffusion0" .diffusion reluctantEnergetics 0 =
        .ok reluctantHop :=
    rfl
  have fluxFaultless : lightFlux.fault? = none := by decide +kernel
  rcases
    rates_stay_in_domain faultless (Or.inr ⟨_, _, _, _, selected⟩) 3 with
    ⟨hopDefined, _, slower⟩
  rcases rates_stay_in_domain faultless (Or.inl fluxFaultless) 0 with
    ⟨fluxDefined, _⟩
  exact ⟨faultless, selected, hopDefined, slower, fluxFaultless, fluxDefined⟩

end SurfaceKinetics
