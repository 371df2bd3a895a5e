import Mathlib.Data.List.TakeDrop
import Mathlib.Data.List.TakeWhile
import SurfaceKinetics.Proofs.Text.Words
import SurfaceKinetics.Text.Numeral

/-!
# Numerals and their numbers

A numeral has digits, signs, a point and the marker of its exponent, and nothing
else.  So it is one word, and no mark of the line that it stands in.
-/

namespace SurfaceKinetics

/-- Whether a letter may stand in a numeral. -/
def isNumeralLetter (letter : Char) : Bool :=
  letter.isDigit || letter == '+' || letter == '-' || letter == '.' ||
    isExponentMark letter

/-- All letters of a text are those of numerals. -/
def NumeralLetters (text : List Char) : Prop :=
  ∀ letter ∈ text, isNumeralLetter letter = true

theorem isNumeralLetter_of_isDigit
    {letter : Char}
    (digit : letter.isDigit = true) :
    isNumeralLetter letter = true := by
  simp [isNumeralLetter, digit]

namespace NumeralLetters

theorem nil : NumeralLetters [] := nofun

theorem cons
    {letter : Char}
    {text : List Char}
    (first : isNumeralLetter letter = true)
    (rest : NumeralLetters text) :
    NumeralLetters (letter :: text) :=
  List.forall_mem_cons.mpr ⟨first, rest⟩

/-! Each part of a numeral that is read leaves the letters of its rest. -/

theorem of_takeSign
    {text : List Char}
    (rest : NumeralLetters (takeSign text).2) :
    NumeralLetters text := by
  rw [takeSign.eq_def] at rest
  split at rest
  · exact rest.cons rfl
  · exact rest.cons rfl
  · exact rest

theorem of_span
    {text : List Char}
    (rest : NumeralLetters (text.span Char.isDigit).2) :
    NumeralLetters text := by
  rw [List.span_eq_takeWhile_dropWhile] at rest
  intro letter member
  rw [← List.takeWhile_append_dropWhile (p := Char.isDigit) (l := text),
    List.mem_append] at member
  rcases member with digit | later
  · exact isNumeralLetter_of_isDigit (List.mem_takeWhile_imp digit)
  · exact rest letter later

theorem of_takeFraction
    {text : List Char}
    (rest : NumeralLetters (takeFraction text).2) :
    NumeralLetters text := by
  rw [takeFraction.eq_def] at rest
  split at rest
  · exact rest.of_span.cons rfl
  · exact rest

theorem of_exponent?
    {text : List Char}
    {exponent : Int}
    (read : exponent? text = some exponent) :
    NumeralLetters text := by
  cases text with
  | nil => exact nil
  | cons mark text =>
      rw [exponent?] at read
      dsimp only at read
      split at read
      · next accepted =>
        rw [Bool.and_eq_true, List.isEmpty_iff] at accepted
        rcases accepted with ⟨marked, finished⟩
        have digits :
            NumeralLetters ((takeSign text).2.span Char.isDigit).2 := by
          rw [finished]
          exact nil
        refine digits.of_span.of_takeSign.cons ?_
        simp [isNumeralLetter, marked]
      · cases read

/-- A numeral consists of the letters of numerals. -/
theorem of_numeral?
    {text : String}
    {literal : Decimal}
    (read : numeral? text = some literal) :
    NumeralLetters text.toList := by
  rw [numeral?] at read
  dsimp only at read
  split at read
  · cases read
  · rcases Option.map_eq_some_iff.mp read with ⟨exponent, exponentRead, _⟩
    exact (of_exponent? exponentRead).of_takeFraction.of_span.of_takeSign

end NumeralLetters

/-! ## Blanks -/

theorem isBlank_of_isNumeralLetter
    {letter : Char}
    (admitted : isNumeralLetter letter = true) :
    isBlank letter = false := by
  simp only [isNumeralLetter, isExponentMark, Bool.or_eq_true, beq_iff_eq] at admitted
  rcases admitted with
    (((digit | rfl) | rfl) | rfl) | (((((rfl | rfl) | rfl) | rfl) | rfl) | rfl)
  · simp only [Char.isDigit, Bool.and_eq_true, decide_eq_true_eq] at digit
    have atLeast : 48 ≤ letter.toNat := digit.1
    have atMost : letter.toNat ≤ 57 := digit.2
    simp [isBlank]
    omega
  all_goals rfl

/-- A numeral is one word. -/
theorem isWord_of_numeral?
    {text : String}
    {literal : Decimal}
    (read : numeral? text = some literal) :
    IsWord text.toList where
  nonempty := by
    intro empty
    simp only [numeral?, empty] at read
    exact nomatch read
  unbroken letter member :=
    isBlank_of_isNumeralLetter (NumeralLetters.of_numeral? read letter member)

end SurfaceKinetics
