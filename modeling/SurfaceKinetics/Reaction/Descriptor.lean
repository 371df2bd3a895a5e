import SurfaceKinetics.Note
import SurfaceKinetics.Quantity

/-!
# Process descriptors

A descriptor is what one process line of an input says: the reaction and its
terms, the category that follows from their shape, the declared species that
take part, the numbers and options of its energetics, and, for a reaction in the
narrow sense, the net coefficient of every species.
-/

namespace SurfaceKinetics

/-- The kind of an elementary process on a surface. -/
inductive Category where
  | adsorption
  | desorption
  | diffusion
  | reaction
  deriving DecidableEq, Inhabited

def Category.name : Category → String
  | adsorption => "Adsorption"
  | desorption => "Desorption"
  | diffusion => "Diffusion"
  | reaction => "Reaction"

/-- All categories. -/
def Category.all : List Category := [adsorption, desorption, diffusion, reaction]

def Category.ofName? (name : String) : Option Category :=
  all.find? fun category => category.name = name

/-- The numbers and the option words behind a reaction, both in their order. -/
structure Energetics (α : Type) where
  values : List α
  options : List String

/-- The meaning of one process line. -/
structure Descriptor (α : Type) where
  name : String
  category : Category
  reaction : String
  reactants : List String
  products : List String
  species : List String
  energetics : Energetics α
  /-- The net coefficient of each species, products counted positively. -/
  stoichiometry : Option (List Int)

/-- What can be wrong with a descriptor. -/
inductive DescriptorFault where
  | coefficientCount (coefficients species : Nat)
  | energeticsNotFinite
  deriving DecidableEq

def DescriptorFault.message (name : String) : DescriptorFault → String
  | coefficientCount coefficients species =>
    s!"{name}: {coefficients} stoichiometric coefficients for {species} species"
  | energeticsNotFinite => s!"{name}: energetics must be finite"

namespace Descriptor

variable {α : Type} [Quantity α]

/-- The first fault of a descriptor: its coefficients are looked at first. -/
def fault? (descriptor : Descriptor α) : Option DescriptorFault :=
  let miscounted :=
    match descriptor.stoichiometry with
    | some coefficients =>
      if coefficients.length = descriptor.species.length then
        none
      else
        some (.coefficientCount coefficients.length descriptor.species.length)
    | none => none
  match miscounted with
  | some fault => some fault
  | none =>
    if descriptor.energetics.values.all Quantity.isFinite then
      none
    else
      some .energeticsNotFinite

end Descriptor

end SurfaceKinetics
