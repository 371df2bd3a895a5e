import SurfaceKinetics.Text.Pieces

/-!
# Significant lines

A comment runs from `#` to the end of its line.  The significant lines of a
source text are the lines that keep a word once comments are gone; each is
simplified and carries its number, counted from one.
-/

namespace SurfaceKinetics

/-- The character that starts a comment. -/
def commentMark : Char := '#'

/-- A line up to its comment. -/
def withoutComment (line : List Char) : List Char :=
  line.takeWhile (· != commentMark)

/-- A significant line: its number in the source and its simplified text. -/
structure Line where
  number : Nat
  text : List Char
  deriving DecidableEq

namespace Line

/-- The words of a line. -/
def tokens (line : Line) : List String :=
  ((line.text.splitOn ' ').filter fun token => !token.isEmpty).map
    String.ofList

/-- The first word of a line. -/
def keyword (line : Line) : String :=
  String.ofList (line.text.takeWhile (· != ' '))

/-- The word after `index` others, or nothing. -/
def token? (line : Line) (index : Nat) : Option String := line.tokens[index]?

end Line

/-- What is left of a line without its comment and needless blanks. -/
def significantText (line : List Char) : List Char :=
  simplify (withoutComment line)

/-- The significant lines among numbered lines, the first having a given number. -/
def significantFrom : Nat → List (List Char) → List Line
  | _, [] => []
  | number, line :: rest =>
    if (significantText line).isEmpty then
      significantFrom (number + 1) rest
    else
      ⟨number, significantText line⟩ :: significantFrom (number + 1) rest

/-- The significant lines of a source text. -/
def significantLines (source : String) : List Line :=
  significantFrom 1 (source.toList.splitOn '\n')

end SurfaceKinetics
