import SurfaceKinetics.InputError
import SurfaceKinetics.Text.Pieces

/-!
# Reaction equations

An equation has reactant terms and product terms.  It is written with `+`
between the terms of a side and `->` between the sides; the first arrow counts,
terms are simplified, and empty terms are left out.
-/

namespace SurfaceKinetics

/-- The terms of the two sides of an equation. -/
structure Equation where
  reactants : List String
  products : List String
  deriving DecidableEq

namespace Equation

/-- What stands between reactants and products. -/
def arrow : List Char := ['-', '>']

/-- What stands between the terms of a side. -/
def plus : List Char := ['+']

/-- The terms of one side. -/
def terms (side : List Char) : List String :=
  (pieces plus side).map String.ofList

/-- The equation that a text spells. -/
def ofText? {α : Type} (text : List Char) : Except (InputError α) Equation :=
  match cutAt? arrow text with
  | none => throw (.missingArrow (String.ofList text))
  | some (left, right) =>
    if (terms left).isEmpty || (terms right).isEmpty then
      throw (.emptySide (String.ofList text))
    else
      pure { reactants := terms left, products := terms right }

/-- The usual spelling of an equation. -/
def text (equation : Equation) : String :=
  " + ".intercalate equation.reactants ++ " -> " ++
    " + ".intercalate equation.products

/-- All terms, the reactants first. -/
def allTerms (equation : Equation) : List String :=
  equation.reactants ++ equation.products

end Equation

end SurfaceKinetics
