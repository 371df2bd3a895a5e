import SurfaceKinetics.Text.Hidden

/-!
# Quoted texts

A quoted text stands between double quotes.  Quotes and backslashes inside it
follow a backslash, the usual control characters have their letters, and every
other hidden character is given by its code point in braces.
-/

namespace SurfaceKinetics.Quoted

/-- A code point in lower-case hexadecimal digits. -/
def hexadecimal (code : Nat) : List Char := Nat.toDigits 16 code

/-- One character of a quoted text. -/
def encodeChar (letter : Char) : List Char :=
  if letter = '"' then ['\\', '"']
  else if letter = '\\' then ['\\', '\\']
  else if letter = '\n' then ['\\', 'n']
  else if letter = '\r' then ['\\', 'r']
  else if letter = '\t' then ['\\', 't']
  else if letter = '\x00' then ['\\', '0']
  else if isHidden letter then
    ['\\', 'u', '\x7b'] ++ hexadecimal letter.toNat ++ ['\x7d']
  else [letter]

/-- A text between quotes. -/
def encode (text : String) : String :=
  String.ofList ('"' :: text.toList.flatMap encodeChar ++ ['"'])

/-- The quoted texts of a list, in brackets. -/
def encodeList (texts : List String) : String :=
  "[" ++ ", ".intercalate (texts.map encode) ++ "]"

end SurfaceKinetics.Quoted
