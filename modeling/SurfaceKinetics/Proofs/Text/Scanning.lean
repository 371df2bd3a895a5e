import Mathlib
import SurfaceKinetics.Proofs.Decimal.Bits
import SurfaceKinetics.Proofs.Text.NumeralForm
import SurfaceKinetics.Reaction.Compile
import SurfaceKinetics.Text.Binary64

/-!
# Recognising and reading a numeral

A numeral is recognised in one pass over its letters.  The pass keeps whether a digit
and the point were seen, where the marker of the exponent stands and whether the
exponent has a sign; positions count bytes.

What is recognised is rewritten for a reader of usual literals: every marker becomes
an `e`, and a marker that no digit follows is left out with its sign.  So the reader
never meets a text that it cannot read, nor the spelling of an infinite or undefined
value, and its value is the one nearest to the numeral.
-/

namespace SurfaceKinetics

/-! ## The pass over the letters -/

/-- What was seen of a text. -/
structure Scan where
  digitSeen : Bool
  pointSeen : Bool
  markAt : Option Nat
  signSeen : Bool

namespace Scan

def start : Scan :=
  { digitSeen := false
    pointSeen := false
    markAt := none
    signSeen := false }

/-- Reads the letter at a position, if it can stand there. -/
def read (scan : Scan) (position : Nat) (letter : Char) : Option Scan :=
  if isSign letter then
    if position = 0 then
      some scan
    else if scan.markAt.map (· + 1) = some position ∧ scan.signSeen = false then
      some { scan with signSeen := true }
    else
      none
  else if letter = '.' then
    if scan.pointSeen || scan.markAt.isSome then
      none
    else
      some { scan with pointSeen := true }
  else if isExponentMark letter then
    if scan.markAt.isSome || !scan.digitSeen then
      none
    else
      some { scan with markAt := some position }
  else if letter.isDigit then
    some { scan with digitSeen := true }
  else
    none

/-- Whether all letters from a position on can be read, with a digit among those seen. -/
def accepts (scan : Scan) (position : Nat) : List Char → Bool
  | [] => scan.digitSeen
  | letter :: rest =>
    match scan.read position letter with
    | none => false
    | some next => next.accepts (position + letter.utf8Size) rest

/-- Whether the pass over a text ends with a numeral. -/
def recognises (text : String) : Bool := start.accepts 0 text.toList

/-! ## Letters -/

theorem read_digit
    (scan : Scan)
    (position : Nat)
    {letter : Char}
    (digit : letter.isDigit = true) :
    scan.read position letter = some { scan with digitSeen := true } := by
  have point : letter ≠ '.' := by
    rintro rfl
    exact absurd digit (by decide)
  have mark : ¬ isExponentMark letter = true := fun contrary =>
    Bool.false_ne_true
      ((isDigit_eq_false_of_isExponentMark contrary).symm.trans digit)
  simp [read, isSign_eq_false_of_isDigit digit, point, mark, digit]

theorem takeSign_cons_of_isSign
    {letter : Char}
    (sign : isSign letter = true)
    (rest : List Char) :
    (takeSign (letter :: rest)).2 = rest := by
  simp only [isSign, Bool.or_eq_true, beq_iff_eq] at sign
  rcases sign with rfl | rfl <;> rfl

theorem takeSign_of_unsigned
    {text : List Char}
    (unsigned : ∀ letter ∈ text.head?, isSign letter = false) :
    takeSign text = (false, text) :=
  takeSign_text_append .none unsigned

/-! ## Parts of a numeral -/

/-- Behind the sign or the first digit of an exponent only digits can stand. -/
theorem accepts_exponentDigits
    {mark position : Nat}
    (behind : mark + 1 < position)
    (pointSeen signSeen : Bool)
    (rest : List Char) :
    accepts ⟨true, pointSeen, some mark, signSeen⟩ position rest =
      rest.all Char.isDigit := by
  induction rest generalizing position with
  | nil => rfl
  | cons letter rest induction =>
      rw [accepts, List.all_cons]
      cases digit : letter.isDigit with
      | true =>
          rw [read_digit _ _ digit, Bool.true_and]
          exact induction (by omega)
      | false =>
          have later : position ≠ 0 := by omega
          simp [read, digit, behind.ne, later]

/-- Behind its marker an exponent may have a sign and then has digits only. -/
theorem accepts_exponent
    (mark : Nat)
    (pointSeen : Bool)
    (rest : List Char) :
    accepts ⟨true, pointSeen, some mark, false⟩ (mark + 1) rest =
      (takeSign rest).2.all Char.isDigit := by
  cases rest with
  | nil => rfl
  | cons letter rest =>
      have sizePos : 0 < letter.utf8Size := Char.utf8Size_pos letter
      have behind : mark + 1 < mark + 1 + letter.utf8Size := by omega
      rw [accepts]
      cases sign : isSign letter with
      | true =>
          rw [takeSign_cons_of_isSign sign, read, if_pos sign,
            if_neg (Nat.succ_ne_zero mark), if_pos ⟨rfl, rfl⟩]
          exact accepts_exponentDigits behind pointSeen true rest
      | false =>
          rw [takeSign_of_unsigned (by rintro _ ⟨⟩; exact sign), List.all_cons]
          cases digit : letter.isDigit with
          | true =>
              rw [read_digit _ _ digit, Bool.true_and]
              exact accepts_exponentDigits behind pointSeen false rest
          | false => simp [read, sign, digit]

theorem exponentMark_shape
    {letter : Char}
    (mark : isExponentMark letter = true) :
    isSign letter = false ∧ letter ≠ '.' ∧ letter.utf8Size = 1 := by
  simp only [isExponentMark, Bool.or_eq_true, beq_iff_eq] at mark
  rcases mark with ((((rfl | rfl) | rfl) | rfl) | rfl) | rfl <;> decide

theorem isEmpty_span_snd (text : List Char) :
    (text.span Char.isDigit).2.isEmpty = text.all Char.isDigit := by
  rw [List.span_eq_takeWhile_dropWhile, Bool.eq_iff_iff, List.isEmpty_iff,
    List.dropWhile_eq_nil_iff, List.all_eq_true]

theorem isSome_exponent?_cons (mark : Char) (rest : List Char) :
    (exponent? (mark :: rest)).isSome =
      (isExponentMark mark && (takeSign rest).2.all Char.isDigit) := by
  rw [exponent?, ← isEmpty_span_snd]
  dsimp only
  split <;> simp_all

/-- Behind the digits of the mantissa only an exponent can stand. -/
theorem accepts_end
    (digitSeen pointSeen : Bool)
    {position : Nat}
    {rest : List Char}
    (unsigned : position = 0 → ∀ letter ∈ rest.head?, isSign letter = false)
    (unpointed : '.' ∈ rest.head? → pointSeen = true)
    (ends : ∀ letter ∈ rest.head?, letter.isDigit = false) :
    accepts ⟨digitSeen, pointSeen, none, false⟩ position rest =
      (digitSeen && (exponent? rest).isSome) := by
  cases rest with
  | nil => exact (Bool.and_true digitSeen).symm
  | cons letter rest =>
      rw [isSome_exponent?_cons, accepts]
      cases mark : isExponentMark letter with
      | true =>
          rcases exponentMark_shape mark with ⟨sign, point, sizeEq⟩
          cases digitSeen with
          | true =>
              simp only [read, sign, point, mark, sizeEq]
              exact accepts_exponent position pointSeen rest
          | false => simp [read, sign, point, mark]
      | false =>
          have refused :
              read ⟨digitSeen, pointSeen, none, false⟩ position letter = none := by
            have digit := ends letter rfl
            cases sign : isSign letter with
            | true =>
                have later : position ≠ 0 := fun first =>
                  absurd (unsigned first letter rfl) (by rw [sign]; decide)
                simp [read, sign, later]
            | false =>
                by_cases point : letter = '.'
                · subst point
                  simp [read, sign, unpointed rfl]
                · simp [read, sign, point, mark, digit]
          rw [refused, Bool.false_and, Bool.and_false]

theorem span_cons_of_isDigit
    {letter : Char}
    (digit : letter.isDigit = true)
    (rest : List Char) :
    (letter :: rest).span Char.isDigit =
      (letter :: (rest.span Char.isDigit).1, (rest.span Char.isDigit).2) := by
  simp [List.span_eq_takeWhile_dropWhile, digit]

theorem span_cons_of_not_isDigit
    {letter : Char}
    (other : letter.isDigit = false)
    (rest : List Char) :
    (letter :: rest).span Char.isDigit = ([], letter :: rest) := by
  simp [List.span_eq_takeWhile_dropWhile, other]

/-- Behind the point the fraction and the exponent can stand. -/
theorem accepts_fraction
    (digitSeen : Bool)
    {position : Nat}
    (positionPos : 0 < position)
    (rest : List Char) :
    accepts ⟨digitSeen, true, none, false⟩ position rest =
      ((digitSeen || !(rest.span Char.isDigit).1.isEmpty) &&
        (exponent? (rest.span Char.isDigit).2).isSome) := by
  induction rest generalizing digitSeen position with
  | nil => cases digitSeen <;> rfl
  | cons letter rest induction =>
      cases digit : letter.isDigit with
      | true =>
          rw [accepts, read_digit _ _ digit, span_cons_of_isDigit digit]
          refine (induction true (by omega)).trans ?_
          simp
      | false =>
          rw [span_cons_of_not_isDigit digit,
            accepts_end digitSeen true (absurd · positionPos.ne') (fun _ => rfl)
              (by rintro _ ⟨⟩; exact digit)]
          simp

theorem accepts_mantissa
    (digitSeen : Bool)
    {position : Nat}
    {rest : List Char}
    (unsigned : position = 0 → ∀ letter ∈ rest.head?, isSign letter = false) :
    accepts ⟨digitSeen, false, none, false⟩ position rest =
      ((digitSeen || !(rest.span Char.isDigit).1.isEmpty ||
          !(takeFraction (rest.span Char.isDigit).2).1.isEmpty) &&
        (exponent? (takeFraction (rest.span Char.isDigit).2).2).isSome) := by
  induction rest generalizing digitSeen position with
  | nil => cases digitSeen <;> rfl
  | cons letter rest induction =>
      have sizePos : 0 < letter.utf8Size := Char.utf8Size_pos letter
      cases digit : letter.isDigit with
      | true =>
          rw [accepts, read_digit _ _ digit, span_cons_of_isDigit digit]
          refine (induction true (by omega)).trans ?_
          simp
      | false =>
          rw [span_cons_of_not_isDigit digit]
          by_cases point : letter = '.'
          · subst point
            refine
              (accepts_fraction digitSeen (by omega : 0 < position + '.'.utf8Size)
                rest).trans ?_
            simp [takeFraction]
          · have unpointed : takeFraction (letter :: rest) = ([], letter :: rest) := by
              simp [takeFraction, point]
            rw [unpointed,
              accepts_end digitSeen false unsigned
                (by rintro ⟨⟩; exact absurd rfl point)
                (by rintro _ ⟨⟩; exact digit)]
            simp

/-- The sign of a numeral, its mantissa and its exponent are read one by one. -/
theorem accepts_start (text : List Char) :
    start.accepts 0 text =
      let digits := (takeSign text).2.span Char.isDigit
      let fraction := takeFraction digits.2
      (!digits.1.isEmpty || !fraction.1.isEmpty) && (exponent? fraction.2).isSome := by
  cases text with
  | nil => rfl
  | cons letter rest =>
      cases sign : isSign letter with
      | true =>
          have sizePos : 0 < letter.utf8Size := Char.utf8Size_pos letter
          rw [takeSign_cons_of_isSign sign, accepts, read, if_pos sign, if_pos rfl]
          exact
            accepts_mantissa false fun first => absurd first (by omega)
      | false =>
          have unsigned :
              ∀ first ∈ (letter :: rest).head?, isSign first = false := by
            rintro _ ⟨⟩
            exact sign
          rw [takeSign_of_unsigned unsigned]
          exact accepts_mantissa false fun _ => unsigned

/-- The pass recognises the numerals. -/
theorem recognises_eq_isNumeral (text : String) :
    recognises text = isNumeral text := by
  rw [recognises, accepts_start, isNumeral, numeral?]
  dsimp only
  rw [← Bool.not_and]
  split
  · next missing =>
    rw [missing]
    rfl
  · next present =>
    rw [Bool.not_eq_true] at present
    rw [present, Option.isSome_map]
    rfl

end Scan

/-! ## Reading what is recognised -/

/-- Every marker of an exponent becomes an `e`. -/
def unified (text : List Char) : List Char :=
  text.map fun letter => if isExponentMark letter then 'e' else letter

/-- A last marker without digits is left out, with its sign. -/
def trimmed (text : List Char) : List Char :=
  ((unified text).rdropWhile isSign).rdropWhile (· == 'e')

/-- Reads what is recognised, as usual literals are read. -/
def readStrictly? (text : String) : Option Binary64 :=
  if Scan.recognises text then
    Binary64.ofText? (String.ofList (trimmed text.toList))
  else
    none

/-- Unwanted letters at the end are dropped up to one that is wanted. -/
theorem rdropWhile_append
    {unwanted : Char → Bool}
    {text tail : List Char}
    (lastKept : ∀ letter ∈ text.getLast?, unwanted letter = false)
    (tailDropped : ∀ letter ∈ tail, unwanted letter = true) :
    (text ++ tail).rdropWhile unwanted = text := by
  induction tail using List.reverseRecOn with
  | nil =>
      rw [List.append_nil, List.rdropWhile_eq_self_iff]
      intro nonempty
      rw [lastKept _ (List.getLast_mem_getLast? nonempty)]
      exact Bool.false_ne_true
  | append_singleton tail letter induction =>
      rw [← List.append_assoc,
        List.rdropWhile_concat_pos _ _ _ (tailDropped letter (by simp))]
      exact induction fun other member =>
        tailDropped other (List.mem_append_left _ member)

theorem unified_append (first second : List Char) :
    unified (first ++ second) = unified first ++ unified second :=
  List.map_append

theorem unified_eq_self
    {text : List Char}
    (unmarked : ∀ letter ∈ text, isExponentMark letter = false) :
    unified text = text := by
  refine (List.map_congr_left fun letter member => ?_).trans (List.map_id text)
  rw [unmarked letter member]
  rfl

/-- A letter is a digit or the point. -/
def IsMantissaLetter (letter : Char) : Prop := letter.isDigit = true ∨ letter = '.'

instance (letter : Char) : Decidable (IsMantissaLetter letter) :=
  inferInstanceAs (Decidable (letter.isDigit = true ∨ letter = '.'))

namespace IsMantissaLetter

variable {letter : Char} (inMantissa : IsMantissaLetter letter)

include inMantissa

theorem isSign_eq_false : isSign letter = false := by
  rcases inMantissa with digit | rfl
  · exact isSign_eq_false_of_isDigit digit
  · rfl

theorem isExponentMark_eq_false : isExponentMark letter = false := by
  rcases inMantissa with digit | rfl
  · rw [Bool.eq_false_iff]
    exact fun mark =>
      Bool.false_ne_true ((isDigit_eq_false_of_isExponentMark mark).symm.trans digit)
  · rfl

theorem beq_e_eq_false : (letter == 'e') = false := by
  rw [beq_eq_false_iff_ne]
  rintro rfl
  exact absurd inMantissa (by decide)

theorem toLower_eq : letter.toLower = letter := by
  rcases inMantissa with digit | rfl
  · simp only [Char.isDigit, Bool.and_eq_true, decide_eq_true_eq] at digit
    rw [Char.toLower, dif_neg]
    exact fun upper => absurd (UInt32.le_trans upper.1 digit.2) (by decide)
  · rfl

end IsMantissaLetter

/-- A text that ends with a digit or the point loses nothing at its end. -/
theorem rdropWhile_rdropWhile_eq_self
    {text : List Char}
    (last : ∀ letter ∈ text.getLast?, IsMantissaLetter letter) :
    (text.rdropWhile isSign).rdropWhile (· == 'e') = text := by
  have signs :=
    rdropWhile_append (fun letter member => (last letter member).isSign_eq_false)
      (List.forall_mem_nil _)
  have marks :=
    rdropWhile_append (fun letter member => (last letter member).beq_e_eq_false)
      (List.forall_mem_nil _)
  rw [List.append_nil] at signs marks
  rw [signs, marks]

theorem SignMark.isSign_of_mem_text (sign : SignMark) :
    ∀ letter ∈ sign.text, isSign letter = true := by
  cases sign with
  | none => exact List.forall_mem_nil _
  | plus => exact List.forall_mem_singleton.mpr rfl
  | minus => exact List.forall_mem_singleton.mpr rfl

namespace NumeralForm

/-- An exponent with an `e` for its marker, if it has digits. -/
def strictExponentText : Option ExponentForm → List Char
  | none => []
  | some exponent =>
    if exponent.digits.isEmpty then
      []
    else
      'e' :: (exponent.sign.text ++ exponent.digits)

variable (form : NumeralForm)

theorem isMantissaLetter_of_mem
    {letter : Char}
    (member : letter ∈ form.mantissaText) :
    IsMantissaLetter letter := by
  rcases List.mem_append.mp member with whole | behind
  · exact Or.inl (form.digits_whole letter whole)
  · cases fractionEq : form.fraction with
    | none => simp [fractionEq, fractionText] at behind
    | some digits =>
        rw [fractionEq, fractionText, List.mem_cons] at behind
        exact
          behind.symm.imp_left
            (form.digits_fraction digits fractionEq letter)

theorem unified_sign (sign : SignMark) : unified sign.text = sign.text := by
  cases sign <;> rfl

theorem unified_letters :
    unified form.letters =
      (form.sign.text ++ form.mantissaText) ++
        unified (exponentText form.exponent) := by
  rw [letters, unified_append, unified_append, unified_sign,
    unified_eq_self fun letter member =>
      (form.isMantissaLetter_of_mem member).isExponentMark_eq_false,
    List.append_assoc]

theorem isMantissaLetter_of_mem_getLast?
    {letter : Char}
    (member : letter ∈ (form.sign.text ++ form.mantissaText).getLast?) :
    IsMantissaLetter letter := by
  rcases form.exists_mantissaText_eq_cons with ⟨first, others, mantissaEq, _⟩
  have nonempty : form.mantissaText ≠ [] := by
    rw [mantissaEq]
    exact List.cons_ne_nil _ _
  rw [List.getLast?_append_of_ne_nil _ nonempty] at member
  exact form.isMantissaLetter_of_mem (List.mem_of_mem_getLast? member)

theorem trimmed_letters :
    trimmed form.letters =
      form.sign.text ++ (form.mantissaText ++ strictExponentText form.exponent) := by
  have last := fun letter => @form.isMantissaLetter_of_mem_getLast? letter
  rw [trimmed, form.unified_letters, ← List.append_assoc]
  generalize form.sign.text ++ form.mantissaText = digits at last ⊢
  cases form.exponent with
  | none =>
      rw [exponentText, strictExponentText, unified, List.map_nil, List.append_nil]
      exact rdropWhile_rdropWhile_eq_self last
  | some exponent =>
      have unifiedEq :
          unified (exponentText (some exponent)) =
            'e' :: (exponent.sign.text ++ exponent.digits) := by
        rw [exponentText, ExponentForm.text, unified, List.map_cons,
          if_pos exponent.isExponentMark_mark, ← unified, unified_append,
          unified_sign, unified_eq_self fun letter member =>
            IsMantissaLetter.isExponentMark_eq_false
              (Or.inl (exponent.digits_digits letter member))]
      rw [unifiedEq, strictExponentText]
      split_ifs with missing
      · -- The sign of the exponent is dropped first, and then its marker.
        have unsigned :
            (digits ++ 'e' :: exponent.sign.text).rdropWhile isSign =
              digits ++ ['e'] := by
          rw [List.append_cons]
          refine rdropWhile_append ?_ exponent.sign.isSign_of_mem_text
          rw [List.getLast?_concat]
          rintro _ ⟨⟩
          rfl
        have unmarked : (digits ++ ['e']).rdropWhile (· == 'e') = digits :=
          rdropWhile_append
            (fun letter member => (last letter member).beq_e_eq_false)
            (List.forall_mem_singleton.mpr rfl)
        rw [List.isEmpty_iff.mp missing, List.append_nil, List.append_nil, unsigned,
          unmarked]
      · apply rdropWhile_rdropWhile_eq_self
        rw [List.isEmpty_iff] at missing
        rw [← List.cons_append, ← List.append_assoc,
          List.getLast?_append_of_ne_nil _ missing]
        exact fun letter member =>
          Or.inl (exponent.digits_digits letter (List.mem_of_mem_getLast? member))

theorem strictExponent?_strictExponentText :
    strictExponent? (strictExponentText form.exponent) = some form.power := by
  rw [power]
  cases form.exponent with
  | none => rfl
  | some exponent =>
      rw [strictExponentText]
      split_ifs with missing
      · have powerEq := ExponentForm.power_eq_zero (List.isEmpty_iff.mp missing)
        exact congrArg some powerEq.symm
      · have only : exponent.digits.all Char.isDigit = true :=
          List.all_eq_true.mpr exponent.digits_digits
        rw [strictExponent?, exponent.digits_digits.takeSign_text_append exponent.sign]
        simp only [missing, only]
        rfl

theorem follows_strictExponentText (exponent : Option ExponentForm) :
    Follows (strictExponentText exponent) := by
  cases exponent with
  | none => exact nofun
  | some exponent =>
      rw [strictExponentText]
      split_ifs
      · exact nofun
      · rintro _ ⟨⟩
        rfl

/-- In small letters the text of a numeral is no word of letters alone. -/
theorem ofList_map_toLower_ne
    (rest : List Char)
    {word : String}
    {letter : Char}
    (begins : word.toList.head? = some letter)
    (other : ¬ IsMantissaLetter letter) :
    String.ofList ((form.mantissaText ++ rest).map Char.toLower) ≠ word := by
  rintro rfl
  rcases form.exists_mantissaText_eq_cons with ⟨first, others, mantissaEq, shape⟩
  rw [String.toList_ofList, mantissaEq, List.cons_append, List.map_cons,
    IsMantissaLetter.toLower_eq shape] at begins
  exact other (Option.some.inj begins ▸ shape)

/-- The rewritten text of a numeral is read as the value nearest to its literal. -/
theorem ofText?_trimmed :
    Binary64.ofText? (String.ofList (trimmed form.letters)) =
      some form.literal.nearest := by
  have follows := follows_strictExponentText form.exponent
  rw [Binary64.ofText?, String.toList_ofList, form.trimmed_letters]
  simp only [form.takeSign_append]
  split
  · next spelled => exact absurd spelled (form.ofList_map_toLower_ne _ rfl (by decide))
  · next spelled => exact absurd spelled (form.ofList_map_toLower_ne _ rfl (by decide))
  · next spelled => exact absurd spelled (form.ofList_map_toLower_ne _ rfl (by decide))
  · rw [finiteMagnitude?]
    simp only [form.span_mantissaText_append follows, form.takeFraction_append follows,
      form.isEmpty_and_isEmpty, form.strictExponent?_strictExponentText]
    rfl

end NumeralForm

theorem readStrictly?_eq (text : String) :
    readStrictly? text = (numeral? text).map Decimal.nearest := by
  rw [readStrictly?, Scan.recognises_eq_isNumeral]
  split_ifs with accepted
  · rcases exists_numeralForm accepted with ⟨form, rfl⟩
    rw [form.numeral?_text, NumeralForm.text, String.toList_ofList,
      form.ofText?_trimmed]
    rfl
  · rw [isNumeral, Bool.not_eq_true, Option.isSome_eq_false_iff,
      Option.isNone_iff_eq_none] at accepted
    rw [accepted]
    rfl

/--
Numerals are the texts with the form of one, and a pass over the letters recognises
them.  A numeral is read in any case, whether from its parts or rewritten, and as the
number that is nearest to it.
-/
theorem numeral_recognised_and_rounded (text : String) :
    (isNumeral text = true ↔ ∃ form : NumeralForm, form.text = text) ∧
      Scan.recognises text = isNumeral text ∧
        (number? text : Option Float) = (readStrictly? text).map Binary64.toFloat ∧
          (number? text : Option Float).isSome = isNumeral text ∧
            ∀ form : NumeralForm,
              form.text = text →
                ∃ value : Float,
                  number? text = some value ∧
                    Binary64.Rounds form.sign.negative form.size
                      (Binary64.ofFloat value) := by
  refine
    ⟨isNumeral_iff, Scan.recognises_eq_isNumeral text, ?_, Option.isSome_map, ?_⟩
  · rw [readStrictly?_eq, Option.map_map]
    rfl
  · rintro form rfl
    refine ⟨form.literal.nearest.toFloat, ?_, ?_⟩
    · rw [number?, form.numeral?_text]
      rfl
    · rw [← form.size_literal]
      exact form.literal.rounds_nearest.ofFloat_toFloat

theorem numeral_recognised_and_rounded_marked :
    ∃ value : Float,
      number? "-3.4D-5" = some value ∧
        Binary64.Rounds true (34 / 10 ^ 6) (Binary64.ofFloat value) := by
  have read :=
    (numeral_recognised_and_rounded "-3.4D-5").2.2.2.2
      { sign := .minus
        whole := ['3']
        fraction := some ['4']
        exponent :=
          some
            { mark := 'D'
              sign := .minus
              digits := ['5']
              isExponentMark_mark := rfl
              digits_digits := List.forall_mem_singleton.mpr rfl }
        digits_whole := List.forall_mem_singleton.mpr rfl
        digits_fraction := by
          rintro _ ⟨⟩
          exact List.forall_mem_singleton.mpr rfl
        nonempty := Or.inl (List.cons_ne_nil _ _) }
      rfl
  have sizeEq : (3 + 4 / 10 ^ 1) * 10 ^ (-5 : Int) = (34 / 10 ^ 6 : ℚ) := by norm_num
  rw [← sizeEq]
  exact read

example :
    isNumeral "inf" = false ∧
      isNumeral "nan" = false ∧ isNumeral "0x1p3" = false := by
  decide

end SurfaceKinetics
