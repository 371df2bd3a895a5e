import Mathlib.Data.List.TakeDrop
import Mathlib.Data.List.TakeWhile
import SurfaceKinetics.Decimal.Style
import SurfaceKinetics.Proofs.Decimal.Rounding
import SurfaceKinetics.Text.Numeral

/-!
# The form of a numeral

A numeral is put together from its parts: an optional sign, the digits before the
point, the digits behind it, and an exponent with a marker, a sign and digits of its
own.  Only the digits before the exponent may not all be missing.  From its text
the parts are read back, and every text that is read as a numeral has such a form.
-/

namespace SurfaceKinetics

/-- All letters of a text are decimal digits. -/
def Digits (text : List Char) : Prop := ∀ letter ∈ text, letter.isDigit = true

def isSign (letter : Char) : Bool := letter == '+' || letter == '-'

/-- A sign that may be left out. -/
inductive SignMark where
  | none
  | plus
  | minus

namespace SignMark

def text : SignMark → List Char
  | none => []
  | plus => ['+']
  | minus => ['-']

def negative : SignMark → Bool
  | none => false
  | plus => false
  | minus => true

/-- A number with the sign. -/
def apply (sign : SignMark) (size : Nat) : Int :=
  if sign.negative then -size else size

end SignMark

/-- The marker of an exponent with its sign and digits, which may be missing. -/
structure ExponentForm where
  mark : Char
  sign : SignMark
  digits : List Char
  isExponentMark_mark : isExponentMark mark = true
  digits_digits : Digits digits

namespace ExponentForm

def text (exponent : ExponentForm) : List Char :=
  exponent.mark :: (exponent.sign.text ++ exponent.digits)

/-- The power of ten. -/
def power (exponent : ExponentForm) : Int :=
  exponent.sign.apply (digitsValue exponent.digits)

theorem power_eq_zero
    {exponent : ExponentForm}
    (missing : exponent.digits = []) :
    exponent.power = 0 := by
  rw [power, missing]
  cases exponent.sign <;> rfl

end ExponentForm

/-- The parts of a numeral; without a point there are no digits behind it. -/
structure NumeralForm where
  sign : SignMark
  whole : List Char
  fraction : Option (List Char)
  exponent : Option ExponentForm
  digits_whole : Digits whole
  digits_fraction : ∀ digits ∈ fraction, Digits digits
  nonempty : whole ≠ [] ∨ fraction.getD [] ≠ []

namespace NumeralForm

/-- The point and the digits behind it. -/
def fractionText : Option (List Char) → List Char
  | none => []
  | some digits => '.' :: digits

def exponentText : Option ExponentForm → List Char
  | none => []
  | some exponent => exponent.text

/-- The digits with their point. -/
def mantissaText (form : NumeralForm) : List Char :=
  form.whole ++ fractionText form.fraction

def letters (form : NumeralForm) : List Char :=
  form.sign.text ++ (form.mantissaText ++ exponentText form.exponent)

def text (form : NumeralForm) : String := String.ofList form.letters

/-- The digits behind the point. -/
def places (form : NumeralForm) : List Char := form.fraction.getD []

/-- The power of ten that the exponent spells; without an exponent it is zero. -/
def power (form : NumeralForm) : Int :=
  match form.exponent with
  | none => 0
  | some exponent => exponent.power

/-- The number that the digits with their point spell. -/
def mantissa (form : NumeralForm) : ℚ :=
  digitsValue form.whole + digitsValue form.places / 10 ^ form.places.length

/-- The number that a numeral spells, without its sign. -/
def size (form : NumeralForm) : ℚ := form.mantissa * 10 ^ form.power

/-- The decimal literal of a numeral. -/
def literal (form : NumeralForm) : Decimal :=
  { negative := form.sign.negative
    digits := digitsValue (form.whole ++ form.places)
    exponent := form.power - form.places.length }

end NumeralForm

/-! ## The number of a numeral -/

theorem digitsValue_eq_ofDigitChars (digits : List Char) :
    digitsValue digits = Nat.ofDigitChars 10 digits 0 :=
  Nat.ofDigitChars_eq_foldl.symm

theorem digitsValue_append (first second : List Char) :
    digitsValue (first ++ second) =
      digitsValue first * 10 ^ second.length + digitsValue second := by
  simp only [digitsValue_eq_ofDigitChars]
  rw [Nat.ofDigitChars_append, Nat.ofDigitChars_eq_ofDigitChars_zero, Nat.mul_comm]

theorem NumeralForm.size_literal (form : NumeralForm) :
    form.literal.size = form.size := by
  rw [Decimal.size, literal, size, mantissa, digitsValue_append,
    zpow_sub₀ (by norm_num), zpow_natCast]
  push_cast
  field_simp

/-! ## Reading the parts -/

theorem Digits.span_append
    {digits rest : List Char}
    (only : Digits digits)
    (ends : ∀ letter ∈ rest.head?, letter.isDigit = false) :
    (digits ++ rest).span Char.isDigit = (digits, rest) := by
  have stop : rest.span Char.isDigit = ([], rest) := by
    cases rest with
    | nil => rfl
    | cons letter rest =>
        have last := ends letter rfl
        rw [List.span_eq_takeWhile_dropWhile,
          List.takeWhile_cons_of_neg (by simp [last]),
          List.dropWhile_cons_of_neg (by simp [last])]
  rw [List.span_eq_takeWhile_dropWhile] at stop ⊢
  rw [List.takeWhile_append_of_pos only, List.dropWhile_append_of_pos only,
    (Prod.mk.inj stop).1, (Prod.mk.inj stop).2, List.append_nil]

theorem Digits.span_eq
    {digits : List Char}
    (only : Digits digits) :
    digits.span Char.isDigit = (digits, []) := by
  have whole := @Digits.span_append digits [] only nofun
  rwa [List.append_nil] at whole

theorem takeSign_text_append
    (sign : SignMark)
    {text : List Char}
    (unsigned : ∀ letter ∈ text.head?, isSign letter = false) :
    takeSign (sign.text ++ text) = (sign.negative, text) := by
  cases sign with
  | none =>
      cases text with
      | nil => rfl
      | cons letter text =>
          have unsignedLetter := unsigned letter rfl
          simp only [isSign, Bool.or_eq_false_iff, beq_eq_false_iff_ne]
            at unsignedLetter
          simp [SignMark.text, SignMark.negative, takeSign, unsignedLetter]
  | plus => rfl
  | minus => rfl

theorem isSign_eq_false_of_isDigit
    {letter : Char}
    (digit : letter.isDigit = true) :
    isSign letter = false := by
  rw [isSign, Bool.or_eq_false_iff, beq_eq_false_iff_ne, beq_eq_false_iff_ne]
  constructor <;> rintro rfl <;> exact absurd digit (by decide)

theorem Digits.takeSign_text_append
    {digits : List Char}
    (only : Digits digits)
    (sign : SignMark) :
    takeSign (sign.text ++ digits) = (sign.negative, digits) :=
  SurfaceKinetics.takeSign_text_append sign fun letter member =>
    isSign_eq_false_of_isDigit (only letter (List.mem_of_mem_head? member))

theorem isDigit_eq_false_of_isExponentMark
    {letter : Char}
    (mark : isExponentMark letter = true) :
    letter.isDigit = false := by
  simp only [isExponentMark, Bool.or_eq_true, beq_iff_eq] at mark
  rcases mark with ((((rfl | rfl) | rfl) | rfl) | rfl) | rfl <;> rfl

theorem ExponentForm.exponent?_text (exponent : ExponentForm) :
    exponent? exponent.text = some exponent.power := by
  rw [text, exponent?, exponent.digits_digits.takeSign_text_append exponent.sign]
  simp only [exponent.digits_digits.span_eq, exponent.isExponentMark_mark]
  rfl

namespace NumeralForm

variable (form : NumeralForm)

/-- A text can follow the digits of a numeral, as an exponent does. -/
def Follows (rest : List Char) : Prop :=
  ∀ letter ∈ rest.head?, isExponentMark letter = true

theorem follows_exponentText (exponent : Option ExponentForm) :
    Follows (exponentText exponent) := by
  cases exponent with
  | none => exact nofun
  | some exponent =>
      rintro _ ⟨⟩
      exact exponent.isExponentMark_mark

theorem exponent?_exponentText :
    exponent? (exponentText form.exponent) = some form.power := by
  rw [power]
  cases form.exponent with
  | none => rfl
  | some exponent => exact exponent.exponent?_text

/-- The digits with their point begin with a digit or the point. -/
theorem exists_mantissaText_eq_cons :
    ∃ first others,
      form.mantissaText = first :: others ∧
        (first.isDigit = true ∨ first = '.') := by
  rw [mantissaText]
  cases wholeEq : form.whole with
  | cons first others =>
      refine ⟨first, others ++ fractionText form.fraction, rfl, Or.inl ?_⟩
      exact form.digits_whole first (by rw [wholeEq]; exact List.mem_cons_self)
  | nil =>
      have behind := form.nonempty.resolve_left (not_not.mpr wholeEq)
      cases fractionEq : form.fraction with
      | none => exact absurd (by rw [fractionEq]; rfl) behind
      | some digits => exact ⟨'.', digits, rfl, Or.inr rfl⟩

variable {rest : List Char} (follows : Follows rest)

theorem takeSign_append :
    takeSign (form.sign.text ++ (form.mantissaText ++ rest)) =
      (form.sign.negative, form.mantissaText ++ rest) := by
  rcases form.exists_mantissaText_eq_cons with ⟨first, others, mantissaEq, shape⟩
  apply takeSign_text_append
  rw [mantissaEq]
  rintro _ ⟨⟩
  rcases shape with digit | rfl
  · exact isSign_eq_false_of_isDigit digit
  · rfl

include follows

theorem span_mantissaText_append :
    (form.mantissaText ++ rest).span Char.isDigit =
      (form.whole, fractionText form.fraction ++ rest) := by
  rw [mantissaText, List.append_assoc]
  apply form.digits_whole.span_append
  cases form.fraction with
  | none =>
      exact fun letter member =>
        isDigit_eq_false_of_isExponentMark (follows letter member)
  | some digits =>
      rintro _ ⟨⟩
      rfl

theorem takeFraction_append :
    takeFraction (fractionText form.fraction ++ rest) = (form.places, rest) := by
  rw [places]
  cases fractionEq : form.fraction with
  | none =>
      cases rest with
      | nil => rfl
      | cons letter rest =>
          have point : letter ≠ '.' := by
            rintro rfl
            exact absurd (follows '.' rfl) (by decide)
          simp [fractionText, takeFraction, point]
  | some digits =>
      exact
        (form.digits_fraction digits fractionEq).span_append fun letter member =>
          isDigit_eq_false_of_isExponentMark (follows letter member)

omit follows in
theorem isEmpty_and_isEmpty :
    (form.whole.isEmpty && form.places.isEmpty) = false := by
  rw [Bool.and_eq_false_iff, List.isEmpty_eq_false_iff, List.isEmpty_eq_false_iff]
  exact form.nonempty

omit follows in
/-- A numeral is read from its text as its literal. -/
theorem numeral?_text : numeral? form.text = some form.literal := by
  have follows := follows_exponentText form.exponent
  rw [numeral?, text, String.toList_ofList, letters]
  simp only [form.takeSign_append, form.span_mantissaText_append follows,
    form.takeFraction_append follows, form.isEmpty_and_isEmpty,
    form.exponent?_exponentText]
  rfl

end NumeralForm

/-! ## Finding the form -/

theorem exists_signMark (text : List Char) :
    ∃ sign : SignMark,
      text = sign.text ++ (takeSign text).2 ∧ sign.negative = (takeSign text).1 := by
  rw [takeSign.eq_def]
  split
  · exact ⟨.plus, rfl, rfl⟩
  · exact ⟨.minus, rfl, rfl⟩
  · exact ⟨.none, rfl, rfl⟩

theorem digits_span_fst (text : List Char) :
    Digits (text.span Char.isDigit).1 := by
  rw [List.span_eq_takeWhile_dropWhile]
  exact fun letter member => List.mem_takeWhile_imp member

theorem span_fst_append_snd (text : List Char) :
    (text.span Char.isDigit).1 ++ (text.span Char.isDigit).2 = text := by
  rw [List.span_eq_takeWhile_dropWhile]
  exact List.takeWhile_append_dropWhile

theorem exists_fraction (text : List Char) :
    ∃ fraction : Option (List Char),
      text = NumeralForm.fractionText fraction ++ (takeFraction text).2 ∧
        fraction.getD [] = (takeFraction text).1 ∧
          ∀ digits ∈ fraction, Digits digits := by
  rw [takeFraction.eq_def]
  split
  · next rest =>
    refine ⟨some (rest.span Char.isDigit).1, ?_, rfl, ?_⟩
    · exact congrArg ('.' :: ·) (span_fst_append_snd rest).symm
    · rintro _ ⟨⟩
      exact digits_span_fst rest
  · exact ⟨none, rfl, rfl, nofun⟩

theorem exists_exponent
    {text : List Char}
    {power : Int}
    (read : exponent? text = some power) :
    ∃ exponent : Option ExponentForm, text = NumeralForm.exponentText exponent := by
  cases text with
  | nil => exact ⟨none, rfl⟩
  | cons mark rest =>
      rw [exponent?] at read
      dsimp only at read
      split at read
      · next accepted =>
        rw [Bool.and_eq_true, List.isEmpty_iff] at accepted
        rcases accepted with ⟨isMark, finished⟩
        rcases exists_signMark rest with ⟨sign, restEq, _⟩
        have digitsEq := span_fst_append_snd (takeSign rest).2
        rw [finished, List.append_nil] at digitsEq
        have digits := digits_span_fst (takeSign rest).2
        rw [digitsEq] at digits
        exact
          ⟨some ⟨mark, sign, (takeSign rest).2, isMark, digits⟩,
            congrArg (mark :: ·) restEq⟩
      · cases read

/-- What is read as a numeral has the form of one. -/
theorem exists_numeralForm
    {text : String}
    (accepted : isNumeral text = true) :
    ∃ form : NumeralForm, form.text = text := by
  rcases Option.isSome_iff_exists.mp accepted with ⟨literal, read⟩
  rw [numeral?] at read
  dsimp only at read
  split at read
  · cases read
  · next nonempty =>
    rcases Option.map_eq_some_iff.mp read with ⟨power, exponentRead, _⟩
    rcases exists_signMark text.toList with ⟨sign, textEq, _⟩
    rcases exists_fraction ((takeSign text.toList).2.span Char.isDigit).2 with
      ⟨fraction, restEq, placesEq, digitsFraction⟩
    rcases exists_exponent exponentRead with ⟨exponent, exponentEq⟩
    refine
      ⟨{ sign
         whole := ((takeSign text.toList).2.span Char.isDigit).1
         fraction
         exponent
         digits_whole := digits_span_fst _
         digits_fraction := digitsFraction
         nonempty := ?_ }, ?_⟩
    · rw [Bool.and_eq_true, List.isEmpty_iff, List.isEmpty_iff, not_and_or] at nonempty
      rw [placesEq]
      exact nonempty
    · rw [NumeralForm.text, NumeralForm.letters, NumeralForm.mantissaText,
        ← exponentEq, List.append_assoc, ← restEq, span_fst_append_snd,
        ← textEq, String.ofList_toList]

theorem isNumeral_iff {text : String} :
    isNumeral text = true ↔ ∃ form : NumeralForm, form.text = text := by
  refine ⟨exists_numeralForm, ?_⟩
  rintro ⟨form, rfl⟩
  rw [isNumeral, form.numeral?_text]
  rfl

/-! ## Whole numbers -/

theorem digits_digitsOf (number : Nat) : Digits (Style.digitsOf number) :=
  fun _ member => Nat.isDigit_of_mem_toDigits (by decide) (by decide) member

/-- The form of a natural number in decimal. -/
def NumeralForm.ofNat (number : Nat) : NumeralForm where
  sign := .none
  whole := Style.digitsOf number
  fraction := none
  exponent := none
  digits_whole := digits_digitsOf number
  digits_fraction := nofun
  nonempty := Or.inl Nat.toDigits_ne_nil

/-- A natural number is read from its decimal digits. -/
theorem numeral?_digitsOf (number : Nat) :
    numeral? (String.ofList (Style.digitsOf number)) =
      some { negative := false, digits := number, exponent := 0 } := by
  have read := (NumeralForm.ofNat number).numeral?_text
  have textEq :
      (NumeralForm.ofNat number).text = String.ofList (Style.digitsOf number) := by
    simp [NumeralForm.ofNat, NumeralForm.text, NumeralForm.letters, SignMark.text,
      NumeralForm.mantissaText, NumeralForm.fractionText, NumeralForm.exponentText]
  have digitsEq : digitsValue (Style.digitsOf number ++ []) = number := by
    rw [List.append_nil, digitsValue_eq_ofDigitChars, Style.digitsOf,
      Nat.ofDigitChars_ten_toDigits]
  rw [textEq] at read
  rw [read]
  exact congrArg (fun digits => some (Decimal.mk false digits 0)) digitsEq

end SurfaceKinetics
