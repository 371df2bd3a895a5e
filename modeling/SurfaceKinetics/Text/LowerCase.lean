import SurfaceKinetics.Text.LetterCase

/-!
# Lower-casing a text

Every letter goes to its lower-case letter, with two exceptions: a dotted capital
I becomes an i with a combining dot, and a capital sigma at the end of a word
becomes the final sigma.  A sigma ends a word when a cased letter comes before it
and none after it, ignorable characters apart.
-/

namespace SurfaceKinetics

namespace LetterCase

def capitalSigma : Char := '\u03A3'

def smallSigma : Char := '\u03C3'

def finalSigma : Char := '\u03C2'

def dottedCapitalI : Char := '\u0130'

/-- Whether the first character that is not ignorable is a cased letter. -/
def meetsCased (text : List Char) : Bool :=
  match text.dropWhile isIgnorable with
  | [] => false
  | letter :: _ => isCased letter

/-- Lower-casing with the characters before the text in reversed order. -/
def lowerAfter : List Char → List Char → List Char
  | _, [] => []
  | before, letter :: rest =>
    let lower :=
      if letter = capitalSigma then
        if meetsCased before && !meetsCased rest then
          [finalSigma]
        else
          [smallSigma]
      else if letter = dottedCapitalI then
        ['i', '\u0307']
      else
        [lowered letter]
    lower ++ lowerAfter (letter :: before) rest

end LetterCase

/-- The text in lower case. -/
def lowerCase (text : String) : String :=
  String.ofList (LetterCase.lowerAfter [] text.toList)

/-- The text with the letters `A` to `Z` in lower case. -/
def plainLowerCase (text : String) : String :=
  String.ofList (text.toList.map Char.toLower)

end SurfaceKinetics
