import SurfaceKinetics.Constants
import SurfaceKinetics.SimulationError

/-!
# Conditions

The temperature of the surface and the pressure of the gas above it.
-/

namespace SurfaceKinetics

/-- Temperature in kelvin and pressure in pascal. -/
structure Conditions (α : Type) where
  temperature : α
  pressure : α

namespace Conditions

variable {α : Type} [Quantity α]

/-- The thermal energy of one particle in joule. -/
def thermalEnergy (conditions : Conditions α) : α :=
  Constants.boltzmann * conditions.temperature

/-- The first fault of the conditions. -/
def fault? (conditions : Conditions α) : Option (ConfigurationFault α) :=
  if !(Quantity.isFinite conditions.temperature &&
      Quantity.isPositive conditions.temperature) then
    some (.temperature conditions.temperature)
  else if !(Quantity.isFinite conditions.pressure &&
      Quantity.isNonnegative conditions.pressure) then
    some (.pressure conditions.pressure)
  else
    none

end Conditions

end SurfaceKinetics
