import SurfaceKinetics.Lattice.Config
import SurfaceKinetics.Reaction.Descriptor

/-!
# Simulation errors

What can go wrong between an input and the end of a run: the lattice, the
configuration of a run, its processes, and its numbers.
-/

namespace SurfaceKinetics

/-- What can be wrong with a scenario or with the configuration of a run. -/
inductive ConfigurationFault (α : Type) where
  | noLattice
  | noTemperature
  | temperature (value : α)
  | pressure (value : α)
  | endTime (value : α)
  | noSteps
  | reportInterval (value : α)
  | duplicateProcess (name : String)

/-- The parameters of rate laws that must not be negative. -/
inductive RateParameter where
  | rate
  | sticking
  | fraction
  | frequency
  | activationEnergy
  | adsorptionEnergy
  | diffusionEnergy
  deriving DecidableEq

/-- What can be wrong with a rate law. -/
inductive RateFault (α : Type) where
  | negative (parameter : RateParameter) (value : α)
  | siteDensity (value : α)
  | mass (value : α)

/-- What can be wrong with a process, or with an event of it. -/
inductive ProcessFault (α : Type) where
  | descriptor (name : String) (fault : DescriptorFault)
  | noSpecies (name reaction : String)
  | noRateLaw (name : String) (keyword : Option String) (values : List α)
  | rate (name : String) (fault : RateFault α)
  | sitesNotGuaranteed (name rule : String) (sites : Nat) (perform : String)
  | tooFewPartners (site found wanted : Nat)

/-- What can be wrong with the total rate of a step. -/
inductive NumericalFault where
  | undefinedTotal (step : Nat)
  | infiniteTotal (step : Nat)
  deriving DecidableEq

inductive SimulationError (α : Type) where
  | lattice (fault : LatticeFault)
  | configuration (fault : ConfigurationFault α)
  | process (fault : ProcessFault α)
  | numerical (fault : NumericalFault)

def RateParameter.name : RateParameter → String
  | rate => "rate"
  | sticking => "sticking coefficient"
  | fraction => "molar fraction"
  | frequency => "frequency"
  | activationEnergy => "activation energy"
  | adsorptionEnergy => "adsorption energy"
  | diffusionEnergy => "diffusion energy"

def NumericalFault.message : NumericalFault → String
  | undefinedTotal step =>
    s!"NaN total rate at step {step}. Check the energetics of the processes."
  | infiniteTotal step =>
    s!"Infinite total rate at step {step}. A rate law overflowed."

variable {α : Type} [Quantity α]

def ConfigurationFault.message : ConfigurationFault α → String
  | noLattice => "No lattice defined (build_lattice is missing)"
  | noTemperature => "No temperature defined"
  | temperature value =>
    "Temperature must be positive, got " ++ Quantity.plain value ++ " K"
  | pressure value =>
    "Pressure must be non-negative, got " ++ Quantity.plain value ++ " Pa"
  | endTime value => "End time must be positive, got " ++ Quantity.plain value
  | noSteps => "Maximum steps must be greater than 0"
  | reportInterval value =>
    "Report interval must be positive, got " ++ Quantity.plain value
  | duplicateProcess name => s!"Process {name} is defined twice"

def RateFault.message : RateFault α → String
  | negative parameter value =>
    parameter.name ++ " must be finite and non-negative, got " ++
      Quantity.plain value
  | siteDensity value =>
    "site concentration must be positive, got " ++ Quantity.plain value
  | mass value => "particle mass must be positive, got " ++ Quantity.plain value

def ProcessFault.message : ProcessFault α → String
  | descriptor name fault => fault.message name
  | noSpecies name reaction => s!"{name}: no declared species in '{reaction}'"
  | noRateLaw name keyword values =>
    s!"{name}: cannot build a " ++ keyword.getD "default" ++
      " rate law from energetics " ++ Quantity.writeList values
  | rate name fault => s!"{name}: " ++ fault.message
  | sitesNotGuaranteed name rule sites perform =>
    s!"{name}: rule '{rule}' does not guarantee the {sites} site(s) " ++
      s!"perform '{perform}' needs"
  | tooFewPartners site found wanted =>
    s!"site {site}: only {found} of {wanted} partner sites available"

/-- What an error is about. -/
def SimulationError.kind : SimulationError α → String
  | lattice _ => "Lattice"
  | configuration _ => "Configuration"
  | process _ => "Process"
  | numerical _ => "Numerical"

/-- The message of the fault, without what it is about. -/
def SimulationError.detail : SimulationError α → String
  | lattice fault => fault.message
  | configuration fault => fault.message
  | process fault => fault.message
  | numerical fault => fault.message

def SimulationError.message (error : SimulationError α) : String :=
  error.kind ++ " error: " ++ error.detail

end SurfaceKinetics
