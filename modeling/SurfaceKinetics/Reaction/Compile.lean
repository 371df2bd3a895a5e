import SurfaceKinetics.Reaction.Vocabulary
import SurfaceKinetics.Text.LowerCase
import SurfaceKinetics.Text.Quoted

/-!
# Compiling process lines

A process line is an equation, a comma and an energetics field.  Numerals of the
field are its numbers; all other words are its options, in lower case.  Further
commas only separate words.

A line fails to compile when its equation has no arrow or an empty side, or when
nothing follows the comma; the three causes are looked for in this order.
-/

namespace SurfaceKinetics

variable {α : Type}

/-- The equation of a descriptor. -/
def Descriptor.equation (descriptor : Descriptor α) : Equation where
  reactants := descriptor.reactants
  products := descriptor.products

variable [Quantity α]

/-- Reads a numeral as a quantity. -/
def number? (text : String) : Option α :=
  (numeral? text).map Quantity.ofDecimal

/-- Sorts the words of a field into numbers and lower-cased options. -/
def Energetics.ofWords (words : List String) : Energetics α :=
  { values := words.filterMap number?
    options :=
      (words.filter fun word => !isNumeral word).map lowerCase }

/-- The energetics that a field spells. -/
def Energetics.ofField (field : List Char) : Energetics α :=
  ofWords ((words field).map String.ofList)

namespace Vocabulary

/-- The mark between the equation and its energetics. -/
def fieldMark : Char := ','

/-- The simplified equation and energetics field of a process line. -/
def lineFields (line : String) : List Char × List Char :=
  let equation := line.toList.takeWhile (· != fieldMark)
  let field := (line.toList.dropWhile (· != fieldMark)).drop 1
  (simplify equation, simplify field)

/-- The energetics of a field whose commas separate words. -/
def fieldEnergetics (field : List Char) : Energetics α :=
  Energetics.ofField
    (field.map fun letter => if letter = fieldMark then ' ' else letter)

/-- The descriptor of an equation with its energetics. -/
def describe
    (vocabulary : Vocabulary)
    (text : String)
    (equation : Equation)
    (energetics : Energetics α)
    (ordinal : Nat) :
    Noted (Descriptor α) := do
  let category := vocabulary.classify equation
  let species := vocabulary.participants equation
  let name := category.name ++ toString ordinal
  let stoichiometry ←
    if category = .reaction then
      some <$> vocabulary.stoichiometry name equation species
    else
      pure none
  Noted.note .reaction .debug <|
    s!"{name}: '{text}' species " ++ Quoted.encodeList species ++
      " energetics " ++ Quantity.writeList energetics.values
  pure
    { name
      category
      reaction := text
      reactants := equation.reactants
      products := equation.products
      species
      energetics
      stoichiometry }

/-- The descriptor that a process line spells; `ordinal` completes its name. -/
def compile
    (vocabulary : Vocabulary)
    (line : String)
    (ordinal : Nat) :
    Except (InputError α) (Noted (Descriptor α)) := do
  let (text, field) := lineFields line
  let equation ← Equation.ofText? text
  if field.isEmpty then
    throw (.missingEnergetics (String.ofList text))
  pure <|
    vocabulary.describe (String.ofList text) equation
      (fieldEnergetics field) ordinal

/-- The descriptor that a process line spells, its coefficients summed in 32 bits. -/
def compile?
    (vocabulary : Vocabulary)
    (line : String)
    (ordinal : Nat) :
    Option (Except (InputError α) (Noted (Descriptor α))) :=
  match vocabulary.compile line ordinal with
  | .error error => some (.error error)
  | .ok compiled =>
    let descriptor := compiled.value
    if descriptor.category = .reaction then
      (vocabulary.stoichiometryShort? descriptor.equation descriptor.species).map
        fun _ => .ok compiled
    else
      some (.ok compiled)

end Vocabulary

end SurfaceKinetics
