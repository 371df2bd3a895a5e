import SurfaceKinetics.Proofs.Decimal.Bits
import SurfaceKinetics.Proofs.Text.NumeralForm
import SurfaceKinetics.Quantity

/-!
# The letters of a number

A finite number that is written without an exponent has digits, perhaps a point among
them, and perhaps a minus in front.  A whole number has no point.
-/

namespace SurfaceKinetics

/-- Whether a letter may stand in a whole number. -/
def isWholeLetter (letter : Char) : Bool := letter.isDigit || letter == '-'

/-- Whether a letter may stand in a number without exponent. -/
def isDecimalLetter (letter : Char) : Bool := isWholeLetter letter || letter == '.'

theorem isDecimalLetter_of_isDigit
    {letter : Char}
    (digit : letter.isDigit = true) :
    isDecimalLetter letter = true := by
  simp [isDecimalLetter, isWholeLetter, digit]

theorem newline_ne_of_isDecimalLetter
    {letter : Char}
    (decimal : isDecimalLetter letter = true) :
    letter ≠ '\n' := by
  rintro rfl
  cases decimal

/-! ## Whole numbers -/

theorem isWholeLetter_of_mem_digitsOf
    {number : Nat}
    {letter : Char}
    (member : letter ∈ Style.digitsOf number) :
    isWholeLetter letter = true := by
  simp [isWholeLetter, digits_digitsOf _ _ member]

theorem isWholeLetter_of_mem_toString
    {number : Nat}
    {letter : Char}
    (member : letter ∈ (toString number).toList) :
    isWholeLetter letter = true := by
  rw [Nat.toString_eq_repr, Nat.toList_repr] at member
  exact isWholeLetter_of_mem_digitsOf member

/-- A whole number in decimal is what it is read from. -/
theorem signedText_eq_repr (number : Int) : Style.signedText number = number.repr := by
  apply String.toList_inj.mp
  rw [Style.signedText, String.toList_ofList, Style.signed, Int.repr_eq_if]
  split
  · next negative =>
    have sizeEq : (-number).toNat = number.natAbs := by omega
    rw [if_neg (Int.not_le.mpr negative), sizeEq, String.toList_append, Nat.toList_repr]
    rfl
  · next nonnegative =>
    have sizeEq : number.toNat = number.natAbs := by omega
    rw [if_pos (Int.not_lt.mp nonnegative), sizeEq, Nat.toList_repr, Style.digitsOf]

theorem isWholeLetter_of_mem_signedText
    {number : Int}
    {letter : Char}
    (member : letter ∈ (Style.signedText number).toList) :
    isWholeLetter letter = true := by
  rw [Style.signedText, String.toList_ofList, Style.signed] at member
  split at member
  · rcases List.mem_cons.mp member with rfl | digit
    · rfl
    · exact isWholeLetter_of_mem_digitsOf digit
  · exact isWholeLetter_of_mem_digitsOf member

/-! ## Numbers without exponent -/

theorem digits_zeros_append
    {digits : List Char}
    (only : Digits digits)
    (count : Nat) :
    Digits (Style.zeros count ++ digits) := by
  intro letter member
  rcases List.mem_append.mp member with zero | digit
  · rw [List.eq_of_mem_replicate zero]
    rfl
  · exact only letter digit

theorem isDecimalLetter_of_mem_positional
    {digits : List Char}
    (only : Digits digits)
    {power : Int}
    {letter : Char}
    (member : letter ∈ Style.positional digits power) :
    isDecimalLetter letter = true := by
  rw [Style.positional] at member
  split at member
  · apply isDecimalLetter_of_isDigit
    rcases List.mem_append.mp member with digit | zero
    · exact only letter digit
    · rw [List.eq_of_mem_replicate zero]
      rfl
  · have padded := digits_zeros_append only
    rcases List.mem_append.mp member with ahead | behind
    · exact isDecimalLetter_of_isDigit (padded _ letter (List.mem_of_mem_take ahead))
    · rcases List.mem_cons.mp behind with rfl | behind
      · rfl
      · exact
          isDecimalLetter_of_isDigit (padded _ letter (List.mem_of_mem_drop behind))

/-- The styles that write a number without an exponent. -/
inductive Style.Positional : Style → Prop where
  | plain : Positional plain
  | places (count : Nat) : Positional (places count)

theorem isDecimalLetter_of_mem_magnitude
    {style : Style}
    (unscaled : style.Positional)
    {significand : Nat}
    {exponent : Int}
    {letter : Char}
    (member : letter ∈ style.magnitude significand exponent) :
    isDecimalLetter letter = true := by
  have zero : Digits ['0'] := by
    intro letter member
    rw [List.mem_singleton.mp member]
    rfl
  rw [Style.magnitude.eq_def] at member
  split at member
  · cases unscaled with
    | plain => exact isDecimalLetter_of_isDigit (zero letter member)
    | places count => exact isDecimalLetter_of_mem_positional zero member
  · cases unscaled with
    | plain =>
        exact isDecimalLetter_of_mem_positional (digits_digitsOf _) member
    | places count =>
        exact isDecimalLetter_of_mem_positional (digits_digitsOf _) member

theorem isDecimalLetter_of_mem_finite
    {style : Style}
    (unscaled : style.Positional)
    {negative : Bool}
    {significand : Nat}
    {exponent : Int}
    {letter : Char}
    (member : letter ∈ (style.write (.finite negative significand exponent)).toList) :
    isDecimalLetter letter = true := by
  rw [Style.write, String.toList_ofList] at member
  split at member
  · rcases List.mem_cons.mp member with rfl | member
    · rfl
    · exact isDecimalLetter_of_mem_magnitude unscaled member
  · exact isDecimalLetter_of_mem_magnitude unscaled member

/-- Quantities whose finite values have the letters of decimals. -/
class DecimalLetters (α : Type) [Quantity α] : Prop where
  of_mem_write
    {style : Style}
    (unscaled : style.Positional)
    {value : α}
    (finite : Quantity.isFinite value = true)
    {letter : Char}
    (member : letter ∈ (Quantity.write style value).toList) :
    isDecimalLetter letter = true

instance : DecimalLetters Float where
  of_mem_write {style} unscaled {number} finite {letter} member := by
    rcases Binary64.exists_finite_of_isFinite finite with
      ⟨negative, significand, exponent, valueEq⟩
    have written :
        Quantity.write style number =
          style.write (.finite negative significand exponent) :=
      congrArg style.write valueEq
    rw [written] at member
    exact isDecimalLetter_of_mem_finite unscaled member

end SurfaceKinetics
