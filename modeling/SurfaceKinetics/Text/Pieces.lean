import SurfaceKinetics.Text.Blank

/-!
# Pieces of a text

Occurrences of a pattern in a text are looked for from the left and do not
overlap.  A text is cut at the first of them, split at all of them, or freed of
all of them.
-/

namespace SurfaceKinetics

/-- Whether a pattern occurs in a text.  The empty one always does. -/
def occurs (pattern : List Char) : List Char → Bool
  | [] => pattern.isEmpty
  | letter :: rest =>
    pattern.isPrefixOf (letter :: rest) || occurs pattern rest

/-- The text before and after the first occurrence of a pattern. -/
def cutAt? (pattern : List Char) : List Char → Option (List Char × List Char)
  | [] => if pattern.isEmpty then some ([], []) else none
  | letter :: rest =>
    if pattern.isPrefixOf (letter :: rest) then
      some ([], (letter :: rest).drop pattern.length)
    else
      (cutAt? pattern rest).map fun cut => (letter :: cut.1, cut.2)

/--
The parts of a text between the occurrences of a pattern that is not empty; the
first argument counts the characters that still belong to the last occurrence.
-/
def partsFrom (pattern : List Char) : Nat → List Char → List (List Char)
  | _, [] => [[]]
  | left + 1, _ :: rest => partsFrom pattern left rest
  | 0, letter :: rest =>
    if pattern.isPrefixOf (letter :: rest) then
      [] :: partsFrom pattern (pattern.length - 1) rest
    else
      match partsFrom pattern 0 rest with
      | [] => [[letter]]
      | part :: others => (letter :: part) :: others

/-- The parts between occurrences; the empty pattern parts all characters. -/
def parts (pattern text : List Char) : List (List Char) :=
  if pattern.isEmpty then
    [] :: text.map (fun letter => [letter]) ++ [[]]
  else
    partsFrom pattern 0 text

/-- The text without the occurrences of a pattern. -/
def erase (pattern text : List Char) : List Char :=
  (parts pattern text).flatten

/-- The simplified parts between occurrences, empty ones left out. -/
def pieces (pattern text : List Char) : List (List Char) :=
  ((parts pattern text).map simplify).filter fun piece => !piece.isEmpty

/-- Texts joined with a separator between neighbours. -/
def joined (separator : String) (texts : List String) : String :=
  separator.intercalate texts

end SurfaceKinetics
