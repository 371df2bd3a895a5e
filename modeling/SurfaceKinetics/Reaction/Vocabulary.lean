import SurfaceKinetics.Reaction.Descriptor
import SurfaceKinetics.Reaction.Equation
import SurfaceKinetics.Short
import SurfaceKinetics.Text.Numeral

/-!
# Species in reaction terms

A term of an equation may name a species, carry the site marker, or be the
marker alone.  The species of a term is the longest declared symbol that occurs
in it, counted in bytes; of several equally long ones it is the first in the
order of symbols.  What is left of a term without its species and the marker is
its coefficient.
-/

namespace SurfaceKinetics

/-- The declared symbols in their order, and the marker of a surface site. -/
structure Vocabulary where
  symbols : List String
  marker : String := "*"

/-- Whether one text occurs in another. -/
def occursIn (pattern text : String) : Bool :=
  occurs pattern.toList text.toList

/-- A text without the occurrences of another. -/
def without (pattern text : String) : String :=
  String.ofList (erase pattern.toList text.toList)

namespace Vocabulary

/-! ## Categories -/

/--
The category that the shape of an equation has: a marker among several reactants
is adsorption, one among several products desorption, a marker on both sides of
a one-to-one equation diffusion, and everything else a reaction.
-/
def classify (vocabulary : Vocabulary) (equation : Equation) : Category :=
  let marker := vocabulary.marker
  if 1 < equation.reactants.length ∧ marker ∈ equation.reactants then
    .adsorption
  else if 1 < equation.products.length ∧ marker ∈ equation.products then
    .desorption
  else
    match equation.reactants, equation.products with
    | [reactant], [product] =>
      if occursIn marker reactant && occursIn marker product then
        .diffusion
      else
        .reaction
    | _, _ => .reaction

/-- The declared species that occur in a term of the equation. -/
def participants (vocabulary : Vocabulary) (equation : Equation) : List String :=
  vocabulary.symbols.filter fun symbol =>
    equation.allTerms.any (occursIn symbol)

/-! ## The species of a term -/

/-- The longer of two symbols; the first one unless the second is longer. -/
def longer (best : Option String) (symbol : String) : Option String :=
  match best with
  | none => some symbol
  | some current =>
    if symbol.utf8ByteSize ≤ current.utf8ByteSize then
      some current
    else
      some symbol

/-- The longest declared symbol that occurs in a term. -/
def longestMatch? (vocabulary : Vocabulary) (term : String) : Option String :=
  (vocabulary.symbols.filter fun symbol => occursIn symbol term).foldl
    longer none

/-- A term without its longest declared symbol, and that symbol. -/
def eraseLongest
    (vocabulary : Vocabulary)
    (term : String) :
    Option String × String :=
  match vocabulary.longestMatch? term with
  | some symbol => (some symbol, without symbol term)
  | none => (none, term)

/-! ## Coefficients -/

/-- What is left of a term without its species, the marker and needless blanks. -/
def coefficientText (vocabulary : Vocabulary) (rest : String) : String :=
  String.ofList
    (simplify (erase vocabulary.marker.toList rest.toList))

/-- The greatest size of a coefficient. -/
def coefficientBound : Nat := 2147483647

/-- The number that a coefficient text spells; the empty one spells one. -/
def coefficient? (text : String) : Option Int :=
  if text.isEmpty then
    some 1
  else
    ((numeral? text).bind fun literal => literal.nearest.integer?).bind
      fun value => if value.natAbs ≤ coefficientBound then some value else none

/--
The species of a term and its coefficient.  A coefficient that is not a whole
number within bounds counts as zero, which a warning reports.
-/
def termCoefficient
    (vocabulary : Vocabulary)
    (term : String) :
    Noted (Option (String × Int)) :=
  match vocabulary.eraseLongest term with
  | (none, _) => pure none
  | (some symbol, rest) =>
    let text := vocabulary.coefficientText rest
    match coefficient? text with
    | some value => pure (some (symbol, value))
    | none => do
      Noted.note .reaction .warn <|
        s!"Stoichiometric coefficient '{text}' of {symbol} in '{term}' " ++
          "is not an integer, using 0"
      pure (some (symbol, 0))

/-- Adds to the coefficient of one species, whatever its size. -/
def addTo
    (symbol : String)
    (amount : Int)
    (totals : List (String × Int)) :
    List (String × Int) :=
  totals.map fun total =>
    if total.1 = symbol then (total.1, total.2 + amount) else total

/-- Adds to the coefficient of one species in 32 bits. -/
def addTo?
    (symbol : String)
    (amount : Int)
    (totals : List (String × Int)) :
    Option (List (String × Int)) :=
  totals.mapM fun total =>
    if total.1 = symbol then
      (short? (total.2 + amount)).map (total.1, ·)
    else
      some total

/-- Adds the coefficient of a term, times a sign, to its species. -/
def addTerm
    (vocabulary : Vocabulary)
    (name : String)
    (sign : Int)
    (totals : List (String × Int))
    (term : String) :
    Noted (List (String × Int)) := do
  match ← vocabulary.termCoefficient term with
  | none => pure totals
  | some (symbol, coefficient) =>
    if totals.any fun total => total.1 = symbol then
      pure (addTo symbol (sign * coefficient) totals)
    else
      Noted.note .reaction .warn
        s!"{name}: species {symbol} of term '{term}' not tracked"
      pure totals

/--
The net coefficient of each species, products minus reactants.  The sums are exact; the
program gives a stoichiometry where those of `stoichiometryShort?` fit.
-/
def stoichiometry
    (vocabulary : Vocabulary)
    (name : String)
    (equation : Equation)
    (species : List String) :
    Noted (List Int) := do
  let totals := species.map fun symbol => (symbol, (0 : Int))
  let totals ← equation.reactants.foldlM (vocabulary.addTerm name (-1)) totals
  let totals ← equation.products.foldlM (vocabulary.addTerm name 1) totals
  pure (totals.map Prod.snd)

/-- Adds the coefficient of a term, times a sign, to its species in 32 bits. -/
def addTerm?
    (vocabulary : Vocabulary)
    (sign : Int)
    (totals : List (String × Int))
    (term : String) :
    Option (List (String × Int)) :=
  match (vocabulary.termCoefficient term).value with
  | none => some totals
  | some (symbol, coefficient) => addTo? symbol (sign * coefficient) totals

/-- The net coefficient of each species, summed in 32 bits. -/
def stoichiometryShort?
    (vocabulary : Vocabulary)
    (equation : Equation)
    (species : List String) :
    Option (List Int) := do
  let totals := species.map fun symbol => (symbol, (0 : Int))
  let totals ← equation.reactants.foldlM (vocabulary.addTerm? (-1)) totals
  let totals ← equation.products.foldlM (vocabulary.addTerm? 1) totals
  pure (totals.map Prod.snd)

end Vocabulary

end SurfaceKinetics
