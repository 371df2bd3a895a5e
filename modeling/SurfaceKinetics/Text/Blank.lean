/-!
# Blanks

A blank is a character with the Unicode property `White_Space`.  A text is
simplified by keeping its words, the runs of characters that are not blank, with
one space between neighbours.
-/

namespace SurfaceKinetics

/-- Characters with the property `White_Space`. -/
def isBlank (letter : Char) : Bool :=
  let code := letter.toNat
  (0x9 ≤ code && code ≤ 0xD) || code == 0x20 || code == 0x85 ||
    code == 0xA0 || code == 0x1680 || (0x2000 ≤ code && code ≤ 0x200A) ||
    code == 0x2028 || code == 0x2029 || code == 0x202F || code == 0x205F ||
    code == 0x3000

/-- The words of a text. -/
def words (text : List Char) : List (List Char) :=
  (text.splitOnP isBlank).filter fun word => !word.isEmpty

/-- The words of a text with one space between neighbours. -/
def simplify (text : List Char) : List Char :=
  [' '].intercalate (words text)

@[simp]
theorem words_nil : words [] = [] := by
  simp [words]

@[simp]
theorem simplify_nil : simplify [] = [] := by
  simp [simplify]

end SurfaceKinetics
