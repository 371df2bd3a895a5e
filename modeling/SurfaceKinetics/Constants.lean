import SurfaceKinetics.Quantity

/-!
# Physical constants

In SI units.
-/

namespace SurfaceKinetics.Constants

variable {α : Type} [Quantity α]

/-- Particles in a mole: `6.022141793e23`. -/
def avogadro : α := Quantity.ofDecimal ⟨false, 6022141793, 14⟩

/-- Energy per particle and kelvin: `1.3806503e-23`. -/
def boltzmann : α := Quantity.ofDecimal ⟨false, 13806503, -30⟩

/-- Kilograms in a gram. -/
def gram : α := Quantity.ofDecimal ⟨false, 1, -3⟩

/-- The share of one particle in an amount per mole. -/
def perParticle (molar : α) : α := molar / avogadro

/-- The mass in kilograms of one particle of a molecular weight in grams per mole. -/
def particleMass (weight : α) : α := weight * gram / avogadro

end SurfaceKinetics.Constants
