import SurfaceKinetics.Files.Fault
import SurfaceKinetics.Quantity

/-!
# Input errors

What can be wrong with an input text.  A fatal error ends the reading; every
other one costs the line it is found in.  An error keeps its severity when it is
located in a line.
-/

namespace SurfaceKinetics

/-- A molecular weight as it was given: a word, or the number it stands for. -/
inductive GivenWeight (α : Type) where
  | word (text : String)
  | number (value : α)

/-- An error of an input text. -/
inductive InputError (α : Type) where
  | cannotOpen (path : String) (cause : FileFault)
  | dimensionX
  | dimensionY
  | height
  | pressure
  | temperature
  | time
  | unknownLattice (tag : String)
  | debugMode (word : String)
  | missingValue (keyword : String)
  | count (keyword word : String)
  | truncatedBlock (keyword : String) (expected found : Nat)
  | speciesFields (line : String)
  | molecularWeight (symbol : String) (weight : GivenWeight α)
  | duplicateSpecies (symbol : String)
  | missingArrow (reaction : String)
  | emptySide (reaction : String)
  | missingEnergetics (reaction : String)
  | steps (words : String)
  | atLine (number : Nat) (cause : InputError α)

namespace GivenWeight

variable {α : Type} [Quantity α]

def text : GivenWeight α → String
  | word text => text
  | number value => Quantity.plain value

end GivenWeight

namespace InputError

variable {α : Type}

/-- Whether the error ends the reading. -/
def isFatal : InputError α → Bool
  | cannotOpen .. => true
  | dimensionX => true
  | dimensionY => true
  | height => true
  | pressure => true
  | temperature => true
  | time => true
  | unknownLattice _ => true
  | debugMode _ => true
  | missingValue _ => true
  | count .. => false
  | truncatedBlock .. => false
  | speciesFields _ => false
  | molecularWeight .. => false
  | duplicateSpecies _ => false
  | missingArrow _ => false
  | emptySide _ => false
  | missingEnergetics _ => false
  | steps _ => false
  | atLine _ cause => cause.isFatal

@[simp]
theorem isFatal_atLine
    (number : Nat)
    (cause : InputError α) :
    (atLine number cause).isFatal = cause.isFatal :=
  rfl

/-- A word for the kind of an error; its location does not matter. -/
def kind : InputError α → String
  | cannotOpen .. => "CannotOpen"
  | dimensionX => "DimensionX"
  | dimensionY => "DimensionY"
  | height => "Height"
  | pressure => "Pressure"
  | temperature => "Temperature"
  | time => "Time"
  | unknownLattice _ => "UnknownLattice"
  | debugMode _ => "DebugMode"
  | missingValue _ => "MissingValue"
  | count .. => "Count"
  | truncatedBlock .. => "TruncatedBlock"
  | speciesFields _ => "SpeciesFields"
  | molecularWeight .. => "MolecularWeight"
  | duplicateSpecies _ => "DuplicateSpecies"
  | missingArrow _ => "MissingArrow"
  | emptySide _ => "EmptySide"
  | missingEnergetics _ => "MissingEnergetics"
  | steps _ => "Steps"
  | atLine _ cause => cause.kind

/-- The line in which an error was found. -/
def line? : InputError α → Option Nat
  | atLine number _ => some number
  | _ => none

/-- The error without its location. -/
def unlocated : InputError α → InputError α
  | atLine _ cause => cause.unlocated
  | error => error

variable [Quantity α]

def message : InputError α → String
  | cannotOpen path _ => s!"Cannot open file {path}."
  | dimensionX => "The x dimension of lattice is not a number."
  | dimensionY => "The y dimension of lattice is not a number."
  | height => "The height must be a number."
  | pressure => "Could not read pressure from input file. Is it a number?"
  | temperature => "Could not read temperature from input file. Is it a number?"
  | time =>
    "Could not read number of KMC simulation time from input file. Is it a number?"
  | unknownLattice tag => s!"Unresolvable lattice type found: {tag}. Exiting..."
  | debugMode word =>
    s!"Could not read debug mode: '{word}' (expected on or off)."
  | missingValue keyword => s!"Missing value for keyword '{keyword}'."
  | count keyword word => s!"The number of {keyword} is not a number: '{word}'."
  | truncatedBlock keyword expected found =>
    s!"Expected {expected} lines after '{keyword}', found {found}."
  | speciesFields line => s!"Missing input fields for species '{line}'."
  | molecularWeight symbol weight =>
    s!"Molecular weight of species '{symbol}' is not a positive number: '" ++
      weight.text ++ "'."
  | duplicateSpecies symbol => s!"Species '{symbol}' is declared twice."
  | missingArrow reaction => s!"Reaction '{reaction}' has no '->' arrow."
  | emptySide reaction =>
    s!"Reaction '{reaction}' has an empty reactant or product side."
  | missingEnergetics reaction =>
    s!"Process '{reaction}' has no energetics " ++
      "(expected '<reaction>, <parameters>')."
  | steps words => s!"Malformed steps definition: '{words}'."
  | atLine number cause => s!"line {number}: " ++ cause.message

/-- The messages of an error and of its causes, the error's own first. -/
def chain : InputError α → List String
  | cannotOpen path cause =>
    [(cannotOpen path cause : InputError α).message, cause.message]
  | atLine number cause => (atLine number cause).message :: cause.chain
  | error => [error.message]

end InputError

end SurfaceKinetics
