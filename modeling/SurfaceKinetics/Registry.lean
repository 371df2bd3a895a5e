import SurfaceKinetics.Constants
import SurfaceKinetics.InputError
import SurfaceKinetics.Reaction.Vocabulary

/-!
# The registry

The registry holds the declared species, in the order of their symbols, and the
registered processes, in the order of their first registration.  The first
declaration of a species stays; of several processes of one name the last stays,
in the place of the first.  Processes are looked up through an index that holds the
place of each name.
-/

namespace SurfaceKinetics

/-- A declared species and its molecular weight in grams per mole. -/
structure Species (α : Type) where
  symbol : String
  weight : α

/-- The mass of one particle in kilograms. -/
def Species.particleMass {α : Type} [Quantity α] (species : Species α) : α :=
  Constants.particleMass species.weight

/-- Declared species, registered processes, and the places of processes by name. -/
structure Registry (α : Type) where
  species : List (Species α) := []
  processes : List (Descriptor α) := []
  byName : List (String × Nat) := []

namespace Registry

variable {α : Type}

/-! ## Species -/

/-- Inserts a species before the first one with a greater symbol. -/
def insertSpecies (new : Species α) : List (Species α) → List (Species α)
  | [] => [new]
  | first :: rest =>
    if new.symbol < first.symbol then
      new :: first :: rest
    else
      first :: insertSpecies new rest

/-- The species with a symbol. -/
def species? (registry : Registry α) (symbol : String) : Option (Species α) :=
  registry.species.find? fun species => species.symbol = symbol

/-- The declared symbols in their order. -/
def symbols (registry : Registry α) : List String :=
  registry.species.map Species.symbol

/-- The declared symbols with the usual site marker. -/
def vocabulary (registry : Registry α) : Vocabulary :=
  { symbols := registry.symbols }

/-- Declares a species; its weight is looked at before its symbol. -/
def addSpecies
    [Quantity α]
    (registry : Registry α)
    (symbol : String)
    (weight : α) :
    Except (InputError α) (Registry α) :=
  if Quantity.isFinite weight && Quantity.isPositive weight then
    match registry.species? symbol with
    | some _ => throw (.duplicateSpecies symbol)
    | none =>
      pure
        { registry with
          species := insertSpecies { symbol, weight } registry.species }
  else
    throw (.molecularWeight symbol (.number weight))

/-! ## Processes -/

/-- The place of the process with a name. -/
def place? (registry : Registry α) (name : String) : Option Nat :=
  registry.byName.lookup name

/-- The process with a name. -/
def process? (registry : Registry α) (name : String) : Option (Descriptor α) :=
  (registry.place? name).bind fun place => registry.processes[place]?

/-- Registers a process, in the place of an earlier one of the same name. -/
def register
    (registry : Registry α)
    (descriptor : Descriptor α) :
    Noted (Registry α) :=
  match registry.place? descriptor.name with
  | some place => do
    Noted.note .registry .warn <|
      s!"Process {descriptor.name} redefined, keeping the last definition"
    pure { registry with processes := registry.processes.set place descriptor }
  | none =>
    let place := registry.processes.length
    pure
      { registry with
        byName := (descriptor.name, place) :: registry.byName
        processes := registry.processes ++ [descriptor] }

/-- The species that take part in a process. -/
def speciesOf (registry : Registry α) (name : String) : Option (List String) :=
  (registry.process? name).map Descriptor.species

/-- The numbers of a process. -/
def energeticsOf (registry : Registry α) (name : String) : Option (List α) :=
  (registry.process? name).map fun process => process.energetics.values

/-- The net coefficients of a process. -/
def stoichiometryOf (registry : Registry α) (name : String) : Option (List Int) :=
  (registry.process? name).bind Descriptor.stoichiometry

end Registry

end SurfaceKinetics
