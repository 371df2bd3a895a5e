import SurfaceKinetics.Proofs.Quantity.Exact
import SurfaceKinetics.Proofs.Reaction.Sums

/-!
# Lines that do not compile

A line is cut at its first comma into an equation and a field.  Whether it compiles is
decided by these two as they are written: by the first arrow of the equation, by letters
on both sides of it that are neither plus signs nor blank, and by a letter of the field
that is not blank.  Commas in the field part tokens, and a field of commas alone passes,
although no token is in it.
-/

namespace SurfaceKinetics

/-! ## The parts of a line -/

/-- The equation of a line as it is written, which is what stands before a comma. -/
def equationPart (line : String) : List Char :=
  line.toList.takeWhile (· != Vocabulary.fieldMark)

/-- The field of a line as it is written, which is what stands behind a comma. -/
def fieldPart (line : String) : List Char :=
  (line.toList.dropWhile (· != Vocabulary.fieldMark)).drop 1

/-- There is nothing on a side of an equation besides plus signs and blanks. -/
def IsVoid (side : List Char) : Prop :=
  ∀ letter ∈ side, letter = '+' ∨ isBlank letter = true

instance (side : List Char) : Decidable (IsVoid side) :=
  List.decidableBAll (fun letter => letter = '+' ∨ isBlank letter = true) side

/-- A text has an arrow, and nothing on a side of the first one. -/
def HasVoidSide (text : List Char) : Prop :=
  ∃ before after,
    IsFirstCut Equation.arrow text before after ∧ (IsVoid before ∨ IsVoid after)

theorem HasVoidSide.isInfix {text : List Char} (void : HasVoidSide text) :
    Equation.arrow <:+: text := by
  rcases void with ⟨before, after, cut, _⟩
  exact ⟨before, after, by rw [cut.text_eq, List.append_assoc]⟩

theorem exists_cut_of_not_hasVoidSide
    {text : List Char}
    (present : Equation.arrow <:+: text)
    (filled : ¬ HasVoidSide text) :
    ∃ before after,
      cutAt? Equation.arrow text = some (before, after) ∧
        ¬ (IsVoid before ∨ IsVoid after) := by
  cases cut : cutAt? Equation.arrow text with
  | none => exact (cutAt?_eq_none_iff.mp cut present).elim
  | some sides =>
      refine ⟨sides.1, sides.2, rfl, fun void => filled ?_⟩
      exact ⟨sides.1, sides.2, cutAt?_eq_some_iff.mp cut, void⟩

namespace Equation

theorem terms_eq_nil_iff {side : List Char} : terms side = [] ↔ IsVoid side := by
  rw [terms, List.map_eq_nil_iff, plus, pieces_eq_nil_iff, IsVoid]

/-- The equation of a simplified text is found in the text as it is written. -/
theorem ofText?_simplify {α : Type} (text : List Char) :
    ofText? (α := α) (simplify text) =
      match cutAt? arrow text with
      | none => .error (.missingArrow (String.ofList (simplify text)))
      | some (before, after) =>
        if IsVoid before ∨ IsVoid after then
          .error (.emptySide (String.ofList (simplify text)))
        else
          .ok { reactants := terms before, products := terms after } := by
  have same : words text = words (simplify text) := (words_simplify text).symm
  rw [ofText?]
  cases cut : cutAt? arrow text with
  | none =>
      rw [cutAt?_eq_none_iff, isInfix_congr_words same isWord_arrow,
        ← cutAt?_eq_none_iff] at cut
      rw [cut]
      rfl
  | some sides =>
      rcases sides with ⟨before, after⟩
      rcases exists_cutAt?_of_words_eq same isWord_arrow cut with
        ⟨start, rest, found, beforeWords, afterWords⟩
      rw [found]
      simp only [← terms_congr_words beforeWords, ← terms_congr_words afterWords,
        Bool.or_eq_true, List.isEmpty_iff, terms_eq_nil_iff]
      rfl

end Equation

namespace Vocabulary

/-! ## The tokens of a field -/

/-- The tokens of a field, between which there are commas and blanks. -/
def fieldTokens (field : List Char) : List String :=
  ((field.splitOnP fun letter => letter == fieldMark || isBlank letter).filter
    fun token => !token.isEmpty).map String.ofList

/-- A field with spaces for commas. -/
def withoutMarks (field : List Char) : List Char :=
  field.map fun letter => if letter = fieldMark then ' ' else letter

theorem words_withoutMarks (field : List Char) :
    (words (withoutMarks field)).map String.ofList = fieldTokens field := by
  have parted :
      (withoutMarks field).splitOnP isBlank =
        field.splitOnP fun letter => letter == fieldMark || isBlank letter := by
    induction field with
    | nil => rfl
    | cons letter field induction =>
        rw [withoutMarks] at induction ⊢
        rw [List.map_cons, List.splitOnP_cons_eq_if_modifyHead,
          List.splitOnP_cons_eq_if_modifyHead, induction]
        by_cases mark : letter = fieldMark
        · simp [mark, isBlank]
        · simp [mark]
  rw [words, parted, fieldTokens]

theorem withoutMarks_of_notMem {field : List Char} (unmarked : fieldMark ∉ field) :
    withoutMarks field = field := by
  rw [withoutMarks]
  refine (List.map_congr_left fun letter member => ?_).trans (List.map_id field)
  exact if_neg (ne_of_mem_of_not_mem member unmarked)

/-- The tokens of a field are the words of what stands between its commas. -/
theorem words_withoutMarks_eq_flatMap (field : List Char) :
    words (withoutMarks field) = (pieces [fieldMark] field).flatMap words := by
  have alone :
      ∀ part, fieldMark ∉ part →
        words (withoutMarks part) = (pieces [fieldMark] part).flatMap words := by
    intro part unmarked
    rw [withoutMarks_of_notMem unmarked, pieces_of_notMem unmarked]
    rcases eq_or_ne (simplify part) [] with empty | filled
    · rw [empty, ← words_simplify, empty]
      rfl
    · simp [filled, words_simplify]
  induction field using parting_induction (· == fieldMark) with
  | unbroken field others =>
      exact alone field fun inside => absurd (others fieldMark inside) (by decide)
  | parted before letter after others letterEq induction =>
      have unmarked : fieldMark ∉ before := fun inside =>
        absurd (others fieldMark inside) (by decide)
      have split :
          withoutMarks (before ++ fieldMark :: after) =
            withoutMarks before ++ ' ' :: withoutMarks after := by
        rw [withoutMarks, List.map_append, List.map_cons, if_pos rfl]
        rfl
      rw [eq_of_beq letterEq, split, words_append_blank rfl, alone before unmarked,
        pieces_append_separator, List.flatMap_append]
      exact congrArg _ induction

/-- Simplifying a field keeps its tokens. -/
theorem fieldTokens_simplify (field : List Char) :
    fieldTokens (simplify field) = fieldTokens field := by
  rw [← words_withoutMarks, ← words_withoutMarks, words_withoutMarks_eq_flatMap,
    words_withoutMarks_eq_flatMap, pieces_congr_words rfl (words_simplify field)]

theorem fieldTokens_eq_nil_iff {field : List Char} :
    fieldTokens field = [] ↔
      ∀ letter ∈ field, letter = fieldMark ∨ isBlank letter = true := by
  rw [← words_withoutMarks, List.map_eq_nil_iff, words_eq_nil_iff, withoutMarks,
    List.forall_mem_map]
  refine forall₂_congr fun letter _ => ?_
  by_cases mark : letter = fieldMark
  · simp [mark, isBlank]
  · simp [mark]

end Vocabulary

namespace Energetics

variable {α : Type} [Quantity α]

theorem isSome_number? (text : String) :
    (number? (α := α) text).isSome = isNumeral text := by
  rw [number?, Option.isSome_map, isNumeral]

/-- Every token is a number or an option. -/
theorem ofWords_eq_nil_iff {tokens : List String} :
    (ofWords (α := α) tokens).values = [] ∧ (ofWords (α := α) tokens).options = [] ↔
      tokens = [] := by
  constructor
  · rintro ⟨values, options⟩
    rw [ofWords, List.filterMap_eq_nil_iff] at values
    rw [ofWords, List.map_eq_nil_iff, List.filter_eq_nil_iff] at options
    refine List.eq_nil_iff_forall_not_mem.mpr fun token member => ?_
    apply options token member
    rw [← isSome_number? (α := α), values token member]
    rfl
  · rintro rfl
    exact ⟨rfl, rfl⟩

end Energetics

namespace Vocabulary

variable {α : Type} [Quantity α]

theorem fieldEnergetics_simplify (field : List Char) :
    fieldEnergetics (α := α) (simplify field) = .ofWords (fieldTokens field) := by
  rw [← fieldTokens_simplify, ← words_withoutMarks]
  rfl

/-! ## What becomes of a line -/

section Outcomes

variable (vocabulary : Vocabulary) (line : String) (ordinal : Nat)

/-- A line by the cut of its equation and by its field, as they are written. -/
theorem compile_eq :
    vocabulary.compile (α := α) line ordinal =
      match cutAt? Equation.arrow (equationPart line) with
      | none => .error (.missingArrow (String.ofList (simplify (equationPart line))))
      | some (before, after) =>
        if IsVoid before ∨ IsVoid after then
          .error (.emptySide (String.ofList (simplify (equationPart line))))
        else if (fieldPart line).all isBlank then
          .error (.missingEnergetics (String.ofList (simplify (equationPart line))))
        else
          .ok <|
            vocabulary.describe (String.ofList (simplify (equationPart line)))
              { reactants := Equation.terms before, products := Equation.terms after }
              (.ofWords (fieldTokens (fieldPart line))) ordinal := by
  have fields :
      lineFields line = (simplify (equationPart line), simplify (fieldPart line)) :=
    rfl
  rw [compile, fields]
  dsimp only
  rw [Equation.ofText?_simplify, fieldEnergetics_simplify]
  cases cutAt? Equation.arrow (equationPart line) with
  | none => rfl
  | some cut =>
      rcases cut with ⟨before, after⟩
      dsimp only
      simp only [List.isEmpty_iff, simplify_eq_nil_iff, List.all_eq_true]
      split_ifs <;> rfl

variable {vocabulary line ordinal}

/-- A line compiles to the tokens of its field. -/
theorem energetics_of_compile
    {compiled : Noted (Descriptor α)}
    (compiles : vocabulary.compile line ordinal = .ok compiled) :
    compiled.value.energetics = .ofWords (fieldTokens (fieldPart line)) := by
  rcases vocabulary.compile_eq_ok_iff.mp compiles with ⟨equation, _, _, rfl⟩
  rw [value_describe]
  exact fieldEnergetics_simplify (fieldPart line)

theorem compile_of_arrow_absent (absent : ¬ Equation.arrow <:+: equationPart line) :
    vocabulary.compile (α := α) line ordinal =
      .error (.missingArrow (String.ofList (simplify (equationPart line)))) := by
  rw [compile_eq, cutAt?_eq_none_iff.mpr absent]

theorem compile_of_hasVoidSide (void : HasVoidSide (equationPart line)) :
    vocabulary.compile (α := α) line ordinal =
      .error (.emptySide (String.ofList (simplify (equationPart line)))) := by
  rcases void with ⟨before, after, cut, void⟩
  rw [compile_eq, cutAt?_eq_some_iff.mpr cut]
  exact if_pos void

section Filled

variable
    (present : Equation.arrow <:+: equationPart line)
    (filled : ¬ HasVoidSide (equationPart line))

include present filled

theorem compile_of_blank_field
    (blank : ∀ letter ∈ fieldPart line, isBlank letter = true) :
    vocabulary.compile (α := α) line ordinal =
      .error (.missingEnergetics (String.ofList (simplify (equationPart line)))) := by
  rcases exists_cut_of_not_hasVoidSide present filled with ⟨before, after, cut, sides⟩
  rw [compile_eq, cut]
  exact (if_neg sides).trans (if_pos (List.all_eq_true.mpr blank))

variable (vocabulary ordinal)

theorem compile_of_visible_field
    (visible : ¬ ∀ letter ∈ fieldPart line, isBlank letter = true) :
    ∃ equation,
      vocabulary.compile (α := α) line ordinal =
        .ok
          (vocabulary.describe (String.ofList (simplify (equationPart line))) equation
            (.ofWords (fieldTokens (fieldPart line))) ordinal) := by
  rcases exists_cut_of_not_hasVoidSide present filled with ⟨before, after, cut, sides⟩
  refine ⟨{ reactants := Equation.terms before, products := Equation.terms after }, ?_⟩
  rw [compile_eq, cut]
  exact (if_neg sides).trans (if_neg (mt List.all_eq_true.mp visible))

end Filled

variable (vocabulary line ordinal)

/-- A line without an arrow, one with a void side, one with a blank field and others. -/
theorem compile_outcome :
    (¬ Equation.arrow <:+: equationPart line ∧
        ∃ reaction,
          vocabulary.compile (α := α) line ordinal = .error (.missingArrow reaction)) ∨
      (HasVoidSide (equationPart line) ∧
        ∃ reaction,
          vocabulary.compile (α := α) line ordinal = .error (.emptySide reaction)) ∨
      ((Equation.arrow <:+: equationPart line ∧
          ¬ HasVoidSide (equationPart line) ∧
            ∀ letter ∈ fieldPart line, isBlank letter = true) ∧
        ∃ reaction,
          vocabulary.compile (α := α) line ordinal =
            .error (.missingEnergetics reaction)) ∨
      ((Equation.arrow <:+: equationPart line ∧
          ¬ HasVoidSide (equationPart line) ∧
            ¬ ∀ letter ∈ fieldPart line, isBlank letter = true) ∧
        ∃ compiled, vocabulary.compile (α := α) line ordinal = .ok compiled) := by
  by_cases present : Equation.arrow <:+: equationPart line
  · by_cases void : HasVoidSide (equationPart line)
    · exact Or.inr (Or.inl ⟨void, _, compile_of_hasVoidSide void⟩)
    · by_cases blank : ∀ letter ∈ fieldPart line, isBlank letter = true
      · exact
          Or.inr (Or.inr (Or.inl
            ⟨⟨present, void, blank⟩, String.ofList (simplify (equationPart line)),
              compile_of_blank_field present void blank⟩))
      · rcases compile_of_visible_field (α := α) vocabulary ordinal present void blank
          with ⟨equation, compiles⟩
        exact Or.inr (Or.inr (Or.inr ⟨⟨present, void, blank⟩, _, compiles⟩))
  · exact Or.inl ⟨present, _, compile_of_arrow_absent present⟩

end Outcomes

end Vocabulary

variable {α : Type} [Quantity α]

/-- What becomes of a line, by its parts as they are written. -/
structure DecidedByParts
    (α : Type)
    [Quantity α]
    (vocabulary : Vocabulary)
    (line : String)
    (ordinal : Nat) :
    Prop where
  missingArrow_iff :
    (∃ reaction,
        vocabulary.compile (α := α) line ordinal = .error (.missingArrow reaction)) ↔
      ¬ Equation.arrow <:+: equationPart line
  emptySide_iff :
    (∃ reaction,
        vocabulary.compile (α := α) line ordinal = .error (.emptySide reaction)) ↔
      HasVoidSide (equationPart line)
  missingEnergetics_iff :
    (∃ reaction,
        vocabulary.compile (α := α) line ordinal =
          .error (.missingEnergetics reaction)) ↔
      Equation.arrow <:+: equationPart line ∧
        ¬ HasVoidSide (equationPart line) ∧
          ∀ letter ∈ fieldPart line, isBlank letter = true
  compiles_iff :
    (∃ compiled, vocabulary.compile (α := α) line ordinal = .ok compiled) ↔
      Equation.arrow <:+: equationPart line ∧
        ¬ HasVoidSide (equationPart line) ∧
          ¬ ∀ letter ∈ fieldPart line, isBlank letter = true
  /-- In 32 bits an error stays, and a descriptor when the sums of the line fit. -/
  checks :
    Checks (vocabulary.compile? line ordinal) (vocabulary.LineFits α line ordinal)
      (vocabulary.compile (α := α) line ordinal)
  values_eq :
    ∀ compiled : Noted (Descriptor α),
      vocabulary.compile line ordinal = .ok compiled →
        compiled.value.energetics.values =
          (Vocabulary.fieldTokens (fieldPart line)).filterMap number?
  options_eq :
    ∀ compiled : Noted (Descriptor α),
      vocabulary.compile line ordinal = .ok compiled →
        compiled.value.energetics.options =
          ((Vocabulary.fieldTokens (fieldPart line)).filter fun token =>
            !isNumeral token).map lowerCase
  energetics_eq_nil_iff :
    ∀ compiled : Noted (Descriptor α),
      vocabulary.compile line ordinal = .ok compiled →
        (compiled.value.energetics.values = [] ∧
            compiled.value.energetics.options = [] ↔
          ∀ letter ∈ fieldPart line,
            letter = Vocabulary.fieldMark ∨ isBlank letter = true)

/-- In 32 bits a line is compiled when its parts are there and its sums fit. -/
theorem DecidedByParts.compile?_iff
    {vocabulary : Vocabulary}
    {line : String}
    {ordinal : Nat}
    (decided : DecidedByParts α vocabulary line ordinal) :
    (∃ compiled, vocabulary.compile? (α := α) line ordinal = some (.ok compiled)) ↔
      (Equation.arrow <:+: equationPart line ∧
          ¬ HasVoidSide (equationPart line) ∧
            ¬ ∀ letter ∈ fieldPart line, isBlank letter = true) ∧
        vocabulary.LineFits α line ordinal := by
  rw [← decided.compiles_iff, and_comm, ← exists_and_left]
  exact exists_congr fun _ => decided.checks.eq_some_iff

/--
A line without an arrow in its equation fails for that.  Otherwise it fails for an empty
side when there is nothing but plus signs and blanks on a side, otherwise for missing
energetics when its field is blank, and otherwise it compiles, in 32 bits when the sums
of its stoichiometry fit.  The numbers and options of the process are then the tokens of
the field in their order, and there are none when the field has commas and blanks only.
-/
theorem compile_decided_by_parts
    (vocabulary : Vocabulary)
    (line : String)
    (ordinal : Nat) :
    DecidedByParts α vocabulary line ordinal where
  missingArrow_iff := by
    rcases vocabulary.compile_outcome (α := α) line ordinal with
      ⟨absent, _, result⟩ | ⟨void, _, result⟩ | ⟨parts, _, result⟩ | ⟨parts, _, result⟩
    · simp [result, absent]
    · simp [result, void.isInfix]
    · simp [result, parts.1]
    · simp [result, parts.1]
  emptySide_iff := by
    rcases vocabulary.compile_outcome (α := α) line ordinal with
      ⟨absent, _, result⟩ | ⟨void, _, result⟩ | ⟨parts, _, result⟩ | ⟨parts, _, result⟩
    · simp [result, mt HasVoidSide.isInfix absent]
    · simp [result, void]
    · simp [result, parts.2.1]
    · simp [result, parts.2.1]
  missingEnergetics_iff := by
    rcases vocabulary.compile_outcome (α := α) line ordinal with
      ⟨absent, _, result⟩ | ⟨void, _, result⟩ | ⟨parts, _, result⟩ | ⟨parts, _, result⟩
    · simp [result, absent]
    · simp [result, void]
    · exact iff_of_true ⟨_, result⟩ parts
    · exact iff_of_false (by simp [result]) fun blank => parts.2.2 blank.2.2
  compiles_iff := by
    rcases vocabulary.compile_outcome (α := α) line ordinal with
      ⟨absent, _, result⟩ | ⟨void, _, result⟩ | ⟨parts, _, result⟩ | ⟨parts, _, result⟩
    · simp [result, absent]
    · simp [result, void]
    · exact iff_of_false (by simp [result]) fun visible => visible.2.2 parts.2.2
    · exact iff_of_true ⟨_, result⟩ parts
  checks := vocabulary.checks_compile line ordinal
  values_eq := fun _ compiles => by rw [Vocabulary.energetics_of_compile compiles]; rfl
  options_eq := fun _ compiles => by rw [Vocabulary.energetics_of_compile compiles]; rfl
  energetics_eq_nil_iff := fun _ compiles => by
    rw [Vocabulary.energetics_of_compile compiles]
    exact Energetics.ofWords_eq_nil_iff.trans Vocabulary.fieldTokens_eq_nil_iff

/-- The equation of a landing, with spaces around its marks. -/
def landingText : List Char := "A + * -> A*".toList

theorem isInfix_landingText : Equation.arrow <:+: landingText :=
  ⟨"A + * ".toList, " A*".toList, by decide +kernel⟩

theorem not_hasVoidSide_landingText : ¬ HasVoidSide landingText := by
  rintro ⟨before, after, first, void⟩
  have cut :
      cutAt? Equation.arrow landingText = some ("A + * ".toList, " A*".toList) := by
    decide +kernel
  rw [cutAt?_eq_some_iff.mpr first] at cut
  cases cut
  exact absurd void (by decide +kernel)

/-- A landing with options and numbers among commas. -/
def mixedLine : String := "A + * -> A*, Arrhenius ,,1.0e13, ALL\t71128"

theorem compile_decided_by_parts_mixed :
    ∃ compiled : Noted (Descriptor ℚ),
      Vocabulary.compile { symbols := ["A"] } mixedLine 0 = .ok compiled ∧
        compiled.value.energetics.values = [10000000000000, 71128] ∧
          compiled.value.energetics.options = ["arrhenius", "all"] := by
  have equationEq : equationPart mixedLine = landingText := by decide +kernel
  have visible : ¬ ∀ letter ∈ fieldPart mixedLine, isBlank letter = true := by
    rw [← List.all_eq_true]
    decide +kernel
  have tokens :
      Vocabulary.fieldTokens (fieldPart mixedLine) =
        ["Arrhenius", "1.0e13", "ALL", "71128"] := by
    decide +kernel
  have decided := compile_decided_by_parts (α := ℚ) { symbols := ["A"] } mixedLine 0
  have compiles := decided.compiles_iff
  rw [equationEq] at compiles
  rcases compiles.mpr ⟨isInfix_landingText, not_hasVoidSide_landingText, visible⟩ with
    ⟨compiled, compiledEq⟩
  have values := decided.values_eq compiled compiledEq
  have options := decided.options_eq compiled compiledEq
  rw [tokens] at values options
  refine ⟨compiled, compiledEq, values.trans ?_, options.trans ?_⟩
  · decide +kernel
  · decide +kernel

/-- A landing whose field has a comma and no token. -/
def bareLine : String := "A + * -> A*, ,"

/-- A field without a token passes when a comma is in it. -/
theorem compile_passes_bare_comma :
    Vocabulary.fieldTokens (fieldPart bareLine) = [] ∧
      ∃ compiled : Noted (Descriptor Float),
        Vocabulary.compile { symbols := ["A"] } bareLine 0 = .ok compiled ∧
          compiled.value.energetics.values = [] ∧
            compiled.value.energetics.options = [] := by
  have equationEq : equationPart bareLine = landingText := by decide +kernel
  have visible : ¬ ∀ letter ∈ fieldPart bareLine, isBlank letter = true := by
    rw [← List.all_eq_true]
    decide +kernel
  have none : Vocabulary.fieldTokens (fieldPart bareLine) = [] := by decide +kernel
  rcases Vocabulary.compile_of_visible_field (α := Float) { symbols := ["A"] } 0
      (equationEq ▸ isInfix_landingText) (equationEq ▸ not_hasVoidSide_landingText)
      visible with
    ⟨equation, compiles⟩
  refine ⟨none, _, compiles, ?_⟩
  rw [none, Vocabulary.value_describe]
  exact ⟨rfl, rfl⟩

end SurfaceKinetics
