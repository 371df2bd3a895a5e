import SurfaceKinetics.Rate.Conditions

/-!
# Rate laws

A rate law gives the rate, in events per second, of one process at one eligible
site.  A law is chosen from the energetics of a process: an option word selects
it, and without one the number of parameters does.  In the activated laws the
barrier grows with the number of occupied neighbours of the site; energies are
molar.
-/

namespace SurfaceKinetics

/-- The rate of a process at a site. -/
inductive RateLaw (α : Type) where
  | constant (rate : α)
  | hertzKnudsen (sticking fraction siteDensity mass : α)
  | arrhenius (frequency energy : α)
  | diffusionArrhenius (frequency adsorptionEnergy diffusionEnergy : α)

namespace RateLaw

variable {α : Type}

def name : RateLaw α → String
  | constant _ => "constant"
  | hertzKnudsen .. => "Hertz-Knudsen"
  | arrhenius .. => "Arrhenius"
  | diffusionArrhenius .. => "diffusion Arrhenius"

/-- The option words that select a law. -/
inductive Keyword where
  | constant
  | arrhenius
  | simple
  deriving DecidableEq

namespace Keyword

def word : Keyword → String
  | constant => "constant"
  | arrhenius => "arrhenius"
  | simple => "simple"

def ofWord? : String → Option Keyword
  | "constant" => some constant
  | "arrhenius" => some arrhenius
  | "simple" => some simple
  | _ => none

end Keyword

/--
The law that a keyword, a category and a list of parameters select.  A keyword
ignores parameters beyond those of its law; without one the number of parameters
must be exact.  Three parameters of a diffusion make its own law, also under the
keyword `arrhenius`.
-/
def select? (mass : α) :
    Option Keyword → Category → List α → Option (RateLaw α)
  | some .constant, _, rate :: _ => some (constant rate)
  | none, _, [rate] => some (constant rate)
  | some .simple, _, sticking :: fraction :: siteDensity :: _ =>
    some (hertzKnudsen sticking fraction siteDensity mass)
  | none, .adsorption, [sticking, fraction, siteDensity] =>
    some (hertzKnudsen sticking fraction siteDensity mass)
  | some .arrhenius, .diffusion, [frequency, adsorption, diffusion] =>
    some (diffusionArrhenius frequency adsorption diffusion)
  | none, .diffusion, [frequency, adsorption, diffusion] =>
    some (diffusionArrhenius frequency adsorption diffusion)
  | some .arrhenius, _, frequency :: energy :: _ =>
    some (arrhenius frequency energy)
  | none, _, [frequency, energy] => some (arrhenius frequency energy)
  | _, _, _ => none

variable [Quantity α]

/-! ## Faults -/

/-- The fault of a parameter that must be finite and not negative. -/
def parameterFault?
    (parameter : RateParameter)
    (value : α) :
    Option (RateFault α) :=
  if !Quantity.isFinite value || decide (value < Quantity.zero) then
    some (.negative parameter value)
  else
    none

/-- The first fault of a law. -/
def fault? : RateLaw α → Option (RateFault α)
  | constant rate => parameterFault? .rate rate
  | hertzKnudsen sticking fraction siteDensity mass =>
    (parameterFault? .sticking sticking).or <|
    (parameterFault? .fraction fraction).or <|
      if !(Quantity.isFinite siteDensity && Quantity.isPositive siteDensity) then
        some (.siteDensity siteDensity)
      else if !(Quantity.isFinite mass && Quantity.isPositive mass) then
        some (.mass mass)
      else
        none
  | arrhenius frequency energy =>
    (parameterFault? .frequency frequency).or <|
      parameterFault? .activationEnergy energy
  | diffusionArrhenius frequency adsorptionEnergy diffusionEnergy =>
    (parameterFault? .frequency frequency).or <|
    (parameterFault? .adsorptionEnergy adsorptionEnergy).or <|
      parameterFault? .diffusionEnergy diffusionEnergy

/-- The law of a process, chosen from its energetics and without faults. -/
def select
    (name : String)
    (category : Category)
    (energetics : Energetics α)
    (mass : α) :
    Except (ProcessFault α) (RateLaw α) :=
  let keyword := energetics.options.findSome? Keyword.ofWord?
  match select? mass keyword category energetics.values with
  | none =>
    throw (.noRateLaw name (keyword.map Keyword.word) energetics.values)
  | some law =>
    match law.fault? with
    | some fault => throw (.rate name fault)
    | none => pure law

/-! ## Rates -/

/-- The share of particles that cross a barrier. -/
def boltzmannFactor (conditions : Conditions α) (bonds energy : α) : α :=
  Quantity.exp
    (-bonds * Constants.perParticle energy / conditions.thermalEnergy)

/-- The rate at a site with a number of occupied neighbours. -/
def siteRate
    (law : RateLaw α)
    (conditions : Conditions α)
    (occupiedNeighbours : Nat) : α :=
  let thermal := conditions.thermalEnergy
  let bonds : α := Quantity.ofNat (occupiedNeighbours + 1)
  match law with
  | constant rate => rate
  | hertzKnudsen sticking fraction siteDensity mass =>
    sticking * fraction * conditions.pressure /
      (siteDensity *
        Quantity.sqrt
          (Quantity.ofNat 2 * Quantity.circleRatio * mass * thermal))
  | arrhenius frequency energy =>
    frequency * boltzmannFactor conditions bonds energy
  | diffusionArrhenius frequency adsorptionEnergy diffusionEnergy =>
    frequency *
        Quantity.exp
          (Constants.perParticle (adsorptionEnergy - diffusionEnergy) /
            thermal) *
      boltzmannFactor conditions bonds adsorptionEnergy

end RateLaw

end SurfaceKinetics
