import SurfaceKinetics.SurfaceProcess.Basic
import SurfaceKinetics.Reaction.Compile
import SurfaceKinetics.Registry
import SurfaceKinetics.Total

/-!
# Binding

Binding turns a descriptor into a process.  The category and the mode choose the
rule and the perform:

| category   | height mode                   | label mode             |
|------------|-------------------------------|------------------------|
| adsorption | level neighbours, raise       | vacant cluster, cover  |
| desorption | elevated or all occupied, lower | occupied by, uncover |
| diffusion  | can descend, hop height       | can hop, hop           |
| reaction   |                               | reactant pair, react   |

A process acts on the species of the first term that it consumes, or releases if
it is a desorption; it is in height mode when that species grows the film.
-/

namespace SurfaceKinetics

namespace Binding

/-- The option that binds a desorption to sites with all neighbours occupied. -/
def allOption : String := "all"

/-- The site marker in terms. -/
def marker : String := "*"

/-- The species named by the terms that are not the bare marker. -/
def namedSpecies
    (vocabulary : Vocabulary)
    (terms : List String) :
    List String :=
  (terms.filter (· ≠ marker)).filterMap vocabulary.longestMatch?

variable {α : Type}

/-- The terms on the side that names the species of a process. -/
def speciesTerms (descriptor : Descriptor α) : List String :=
  match descriptor.category with
  | .desorption => descriptor.products
  | _ => descriptor.reactants

/-- The species that a process acts on. -/
def primarySpecies?
    (vocabulary : Vocabulary)
    (descriptor : Descriptor α) :
    Option String :=
  (namedSpecies vocabulary (speciesTerms descriptor)).head?

/-- The sites that a term names: a bare marker names one, `2*` names two. -/
def termSites? (term : String) : Option Nat :=
  match term.toList.getLast? with
  | some '*' =>
    let count := String.ofList (simplify term.toList.dropLast)
    if count.isEmpty then some 1 else natural? count
  | _ => none

/-- The sites that the terms of one side name; at least one. -/
def siteCount (terms : List String) : Nat :=
  max (total (terms.filterMap termSites?)) 1

/-- The number of sites that an event of a descriptor touches. -/
def sitesOf (descriptor : Descriptor α) : Nat :=
  match descriptor.category with
  | .adsorption => siteCount descriptor.reactants
  | .desorption => siteCount descriptor.products
  | _ => 1

/-- Height mode needs a growth species and a process that is not a reaction. -/
def modeOf
    (category : Category)
    (species : String)
    (growth : List String) :
    Mode :=
  match category with
  | .reaction => .label
  | _ => if species ∈ growth then .height else .label

/-- The rule and the perform of a reaction. -/
def reactionParts
    (vocabulary : Vocabulary)
    (descriptor : Descriptor α)
    (growth : List String) :
    Rule × Perform :=
  let reactants := namedSpecies vocabulary descriptor.reactants
  let partner := reactants[1]?
  let product :=
    (namedSpecies vocabulary
      (descriptor.products.filter (occursIn marker))).head?
  let grows :=
    (descriptor.products.filterMap vocabulary.longestMatch?).any (· ∈ growth)
  (.pair (reactants.head?.getD "") partner, .react partner product grows)

/-- The rule and the perform of a process on a number of sites. -/
def parts
    (vocabulary : Vocabulary)
    (descriptor : Descriptor α)
    (growth : List String)
    (species : String) :
    Rule × Perform :=
  let sites := sitesOf descriptor
  let extra := sites - 1
  match descriptor.category, modeOf descriptor.category species growth with
  | .adsorption, .height =>
    (if extra = 0 then .unconditional else .sameHeightNeighbours extra,
      .raiseHeight sites)
  | .adsorption, .label =>
    (if extra = 0 then .vacant else .vacantCluster extra,
      .cover species sites)
  | .desorption, .height =>
    (if allOption ∈ descriptor.energetics.options then
        .allNeighboursOccupied
      else
        .elevated extra,
      .lowerHeight sites)
  | .desorption, .label => (.occupiedBy species extra, .uncover species sites)
  | .diffusion, .height => (.canDescend, .hopHeight)
  | .diffusion, .label => (.canHop species, .hop species)
  | .reaction, _ => reactionParts vocabulary descriptor growth

variable [Quantity α]

/-- The particle mass of a declared species. -/
def massOf (registry : Registry α) (species : String) : α :=
  match registry.species? species with
  | some species => species.particleMass
  | none => Quantity.zero

/-- What a debug note says about a process. -/
def summary (process : SurfaceProcess α) : String :=
  s!"{process.name}: species {process.species} mode {process.mode.name}, " ++
    s!"rule '{process.rule.name}', rate '{process.rateLaw.name}', " ++
    s!"perform '{process.perform.name}' on {process.perform.sites} site(s)"

/-- The process of a descriptor before its rule and perform are compared. -/
def assemble
    (descriptor : Descriptor α)
    (registry : Registry α)
    (growth : List String) :
    Except (ProcessFault α) (SurfaceProcess α) := do
  if let some fault := descriptor.fault? then
    throw (.descriptor descriptor.name fault)
  let vocabulary := registry.vocabulary
  match primarySpecies? vocabulary descriptor with
  | none => throw (.noSpecies descriptor.name descriptor.reaction)
  | some species =>
    let rateLaw ←
      RateLaw.select descriptor.name descriptor.category descriptor.energetics
        (massOf registry species)
    let parts := parts vocabulary descriptor growth species
    let mode := modeOf descriptor.category species growth
    pure (.ofParts descriptor species mode parts.1 rateLaw parts.2)

end Binding

namespace SurfaceProcess

variable {α : Type} [Quantity α]

/-- The process of a descriptor, for the species of a registry. -/
def bind
    (descriptor : Descriptor α)
    (registry : Registry α)
    (growth : List String) :
    Noted (Except (ProcessFault α) (SurfaceProcess α)) :=
  match Binding.assemble descriptor registry growth with
  | .error fault => pure (.error fault)
  | .ok process => do
    Noted.note .binding .debug (Binding.summary process)
    pure process.checked

end SurfaceProcess

end SurfaceKinetics
