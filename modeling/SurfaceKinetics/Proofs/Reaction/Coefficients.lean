import Mathlib
import SurfaceKinetics.Proofs.Reaction.Notation
import SurfaceKinetics.Proofs.Reaction.Participation
import SurfaceKinetics.Proofs.Text.NumeralForm

/-!
# Reading coefficients back

A term is spelled by the digits of its coefficient, its species and, when the species
is adsorbed, the marker.  The species begins with a letter, so it occurs at its own
place only, and erasing it and the marker leaves the digits.  These are read as the
coefficient that they were written for, which is a whole number of few binary places.

A term is counted for the longest declared symbol in it, the first one of several of
the same length.  When this is the species that the term was spelled with, the
stoichiometry lists what the products count of a species less what the reactants do.
-/

namespace SurfaceKinetics

/-! ## Spelled terms -/

/-- A species in a term with its coefficient, and whether it is on the surface. -/
structure SpelledTerm where
  coefficient : Nat
  /-- Whether the coefficient is left out. -/
  omitted : Bool
  species : String
  adsorbed : Bool

namespace SpelledTerm

def digits (term : SpelledTerm) : List Char :=
  if term.omitted then [] else Style.digitsOf term.coefficient

def marker (term : SpelledTerm) : List Char :=
  if term.adsorbed then ['*'] else []

def letters (term : SpelledTerm) : List Char :=
  term.digits ++ (term.species.toList ++ term.marker)

def text (term : SpelledTerm) : String := String.ofList term.letters

/-- A term can be read back from its spelling, with these declared symbols. -/
structure Legible (symbols : List String) (term : SpelledTerm) : Prop where
  coefficient_le : term.coefficient ≤ Vocabulary.coefficientBound
  one_of_omitted : term.omitted = true → term.coefficient = 1
  declared : term.species ∈ symbols
  begins : term.species.toList.head?.any Char.isAlpha = true
  plain :
    ∀ letter ∈ term.species.toList,
      isBlank letter = false ∧
        letter ≠ '+' ∧ letter ≠ '*' ∧ letter ≠ Vocabulary.fieldMark
  arrow_free : occurs Equation.arrow term.species.toList = false
  longest : IsLongest symbols term.text term.species

theorem isAlpha_eq_false_of_isDigit
    {letter : Char}
    (digit : letter.isDigit = true) :
    letter.isAlpha = false := by
  simp only [Char.isDigit, Bool.and_eq_true, decide_eq_true_eq] at digit
  have atMost : letter.toNat ≤ 57 := digit.2
  rw [Bool.eq_false_iff]
  intro alpha
  simp only [Char.isAlpha, Char.isUpper, Char.isLower, Bool.or_eq_true,
    Bool.and_eq_true, decide_eq_true_eq] at alpha
  rcases alpha with upper | lower
  · have atLeast : 65 ≤ letter.toNat := upper.1
    omega
  · have atLeast : 97 ≤ letter.toNat := lower.1
    omega

theorem digits_digits (term : SpelledTerm) : Digits term.digits := by
  rw [digits]
  split_ifs
  · exact List.forall_mem_nil _
  · exact digits_digitsOf term.coefficient

theorem digits_unbroken (term : SpelledTerm) :
    ∀ letter ∈ term.digits, isBlank letter = false :=
  fun letter member =>
    isBlank_of_isNumeralLetter
      (isNumeralLetter_of_isDigit (term.digits_digits letter member))

/-- Digits have no needless blanks. -/
theorem simplify_digits (term : SpelledTerm) : simplify term.digits = term.digits := by
  cases digitsEq : term.digits with
  | nil => exact simplify_nil
  | cons first others =>
      rw [← digitsEq]
      exact
        IsWord.simplify_eq
          ⟨by rw [digitsEq]; exact List.cons_ne_nil _ _, term.digits_unbroken⟩

theorem erase_marker (term : SpelledTerm) :
    erase ['*'] (term.digits ++ term.marker) = term.digits := by
  have others : ∀ letter ∈ term.digits, ['*'].head? ≠ some letter := by
    rintro letter member ⟨⟩
    exact absurd (term.digits_digits '*' member) (by decide)
  have erased : erase ['*'] term.marker = [] := by
    rw [marker]
    split_ifs <;> rfl
  rw [erase_append_of_heads (List.cons_ne_nil _ _) others, erased, List.append_nil]

theorem mem_letters
    {term : SpelledTerm}
    {letter : Char}
    (member : letter ∈ term.letters) :
    letter.isDigit = true ∨ letter ∈ term.species.toList ∨ letter = '*' := by
  rw [letters, List.mem_append, List.mem_append] at member
  rcases member with digit | inSpecies | inMarker
  · exact Or.inl (term.digits_digits letter digit)
  · exact Or.inr (Or.inl inSpecies)
  · rw [marker] at inMarker
    split_ifs at inMarker
    · exact Or.inr (Or.inr (List.mem_singleton.mp inMarker))
    · cases inMarker

namespace Legible

variable
    {symbols : List String}
    {term : SpelledTerm}
    (legible : term.Legible symbols)

include legible

theorem species_ne_nil : term.species.toList ≠ [] := by
  intro empty
  have begins := legible.begins
  rw [empty] at begins
  cases begins

/-- A species begins neither with a digit nor with the marker. -/
theorem head_ne_of_not_isAlpha
    {letter : Char}
    (other : letter.isAlpha = false) :
    term.species.toList.head? ≠ some letter := by
  intro headEq
  have begins := legible.begins
  rw [headEq, Option.any_some, other] at begins
  exact Bool.false_ne_true begins

theorem head_ne_of_mem_digits :
    ∀ letter ∈ term.digits, term.species.toList.head? ≠ some letter := by
  intro letter member
  exact
    legible.head_ne_of_not_isAlpha
      (isAlpha_eq_false_of_isDigit (term.digits_digits letter member))

theorem head_ne_of_mem_marker :
    ∀ letter ∈ term.marker, term.species.toList.head? ≠ some letter := by
  intro letter member
  rw [marker] at member
  split_ifs at member
  · rw [List.mem_singleton.mp member]
    exact legible.head_ne_of_not_isAlpha rfl
  · cases member

/-! ### The species of a term -/

theorem occursIn_text : occursIn term.species term.text = true := by
  rw [occursIn, text, String.toList_ofList, letters]
  exact occurs_append_append legible.species_ne_nil _ _

/-- Only the digits and the marker are left of a term without its species. -/
theorem without_text :
    without term.species term.text = String.ofList (term.digits ++ term.marker) := by
  have nonempty := legible.species_ne_nil
  have markerKept : erase term.species.toList term.marker = term.marker := by
    have kept := erase_append_of_heads nonempty legible.head_ne_of_mem_marker []
    rwa [erase_nil nonempty, List.append_nil] at kept
  rw [without, text, String.toList_ofList, letters,
    erase_append_of_heads nonempty legible.head_ne_of_mem_digits,
    erase_append_self nonempty, markerKept]

theorem coefficientText_without :
    Vocabulary.coefficientText { symbols } (without term.species term.text) =
      String.ofList term.digits := by
  rw [legible.without_text, Vocabulary.coefficientText]
  simp only [String.toList_ofList]
  exact
    congrArg String.ofList
      ((congrArg simplify term.erase_marker).trans term.simplify_digits)

/-- The digits are read as the coefficient. -/
theorem coefficient?_digits :
    Vocabulary.coefficient? (String.ofList term.digits) =
      some (term.coefficient : Int) := by
  rw [digits]
  split_ifs with omitted
  · rw [legible.one_of_omitted omitted]
    rfl
  · have rounds := Decimal.rounds_nearest (Decimal.mk false term.coefficient 0)
    have sizeEq :
        (Decimal.mk false term.coefficient 0).size = term.coefficient := by
      simp [Decimal.size]
    have within := legible.coefficient_le
    have bounded : term.coefficient < Binary64.significandBound :=
      within.trans_lt (by decide)
    rw [sizeEq] at rounds
    have integer := rounds.integer?_eq bounded
    have nonempty :
        (String.ofList (Style.digitsOf term.coefficient)).isEmpty = false := by
      simp [Style.digitsOf, Nat.toDigits_ne_nil]
    rw [Vocabulary.coefficient?, nonempty, if_neg Bool.false_ne_true, numeral?_digitsOf,
      Option.bind_some, integer, Option.bind_some, if_pos (by simpa using within)]

/-- A term is counted for its species with its coefficient. -/
theorem value_termCoefficient (sorted : symbols.Pairwise (· < ·)) :
    (Vocabulary.termCoefficient { symbols } term.text).value =
      some (term.species, (term.coefficient : Int)) := by
  have found : Vocabulary.longestMatch? { symbols } term.text = some term.species :=
    Vocabulary.longestMatch?_eq_some sorted legible.declared legible.occursIn_text
      legible.longest
  rw [Vocabulary.termCoefficient, Vocabulary.eraseLongest, found]
  dsimp only
  rw [legible.coefficientText_without, legible.coefficient?_digits]
  rfl

/-! ### Terms of an equation -/

theorem isBlank_eq_false
    {letter : Char}
    (member : letter ∈ term.letters) :
    isBlank letter = false := by
  rcases mem_letters member with digit | inSpecies | rfl
  · exact isBlank_of_isNumeralLetter (isNumeralLetter_of_isDigit digit)
  · exact (legible.plain letter inSpecies).1
  · rfl

theorem arrow_free_letters : occurs Equation.arrow term.letters = false := by
  have marked : Equation.arrow ≠ [] := List.cons_ne_nil _ _
  have others : ∀ letter ∈ term.digits, Equation.arrow.head? ≠ some letter := by
    rintro letter member ⟨⟩
    exact absurd (term.digits_digits '-' member) (by decide)
  rw [letters, occurs_append_of_heads marked others, marker]
  split_ifs
  · rw [occurs_append_cons (by decide) marked, legible.arrow_free]
    rfl
  · rw [List.append_nil]
    exact legible.arrow_free

theorem isTerm_text : IsTerm term.text := by
  refine ⟨?_, ?_, ?_, ?_⟩ <;> rw [text, String.toList_ofList]
  · refine .of_isWord ⟨?_, fun letter member => legible.isBlank_eq_false member⟩
    intro empty
    rw [letters, List.append_eq_nil_iff, List.append_eq_nil_iff] at empty
    exact legible.species_ne_nil empty.2.1
  · intro member
    rcases mem_letters member with digit | inSpecies | marker
    · exact absurd digit (by decide)
    · exact (legible.plain '+' inSpecies).2.1 rfl
    · exact absurd marker (by decide)
  · intro member
    rcases mem_letters member with digit | inSpecies | marker
    · exact absurd digit (by decide)
    · exact (legible.plain Vocabulary.fieldMark inSpecies).2.2.2 rfl
    · exact absurd marker (by decide)
  · exact legible.arrow_free_letters

end Legible

end SpelledTerm

/-! ## Spelled equations -/

/-- What terms count of a species. -/
def counted (species : String) (terms : List SpelledTerm) : Int :=
  ((terms.filter fun term => term.species = species).map fun term =>
    (term.coefficient : Int)).sum

/-- The equation with these terms. -/
def spelledEquation (reactants products : List SpelledTerm) : Equation where
  reactants := reactants.map SpelledTerm.text
  products := products.map SpelledTerm.text

/-- The species of a term takes part in the equation. -/
theorem mem_participants_spelledEquation
    {symbols : List String}
    {reactants products : List SpelledTerm}
    {term : SpelledTerm}
    (legible : term.Legible symbols)
    (member : term ∈ reactants ++ products) :
    term.species ∈
      Vocabulary.participants { symbols } (spelledEquation reactants products) := by
  refine
    (Vocabulary.mem_participants_iff { symbols }).mpr
      ⟨legible.declared, term.text, ?_, legible.occursIn_text⟩
  rw [Equation.allTerms, spelledEquation, ← List.map_append]
  exact List.mem_map_of_mem member

section Terms

variable
    {symbols : List String}
    (sorted : symbols.Pairwise (· < ·))
    {terms : List SpelledTerm}
    (legible : ∀ term ∈ terms, term.Legible symbols)

include legible

include sorted in
theorem amount_countedTerms (species : String) :
    amount species (Vocabulary.countedTerms { symbols } (terms.map SpelledTerm.text)) =
      counted species terms := by
  induction terms with
  | nil => rfl
  | cons term terms induction =>
      rw [List.forall_mem_cons] at legible
      have valueEq := legible.1.value_termCoefficient sorted
      have others := induction legible.2
      rw [Vocabulary.countedTerms] at others ⊢
      rw [List.map_cons, List.filterMap_cons, valueEq]
      dsimp only
      rw [amount_cons, others, counted, counted, List.filter_cons]
      by_cases same : term.species = species
      · rw [if_pos same, if_pos (decide_eq_true same), List.map_cons, List.sum_cons]
      · rw [if_neg same, if_neg (by simpa using same), Int.zero_add]

theorem isSide_map_text (nonempty : terms ≠ []) :
    IsSide (terms.map SpelledTerm.text) := by
  refine isSide_iff.mpr ⟨by simpa using nonempty, ?_⟩
  intro text member
  rcases List.mem_map.mp member with ⟨term, listed, rfl⟩
  exact (legible term listed).isTerm_text

end Terms

section Sides

variable
    {symbols : List String}
    {reactants products : List SpelledTerm}
    (legible : ∀ term ∈ reactants ++ products, term.Legible symbols)

include legible

theorem plain_spelledEquation
    (reactantsNonempty : reactants ≠ [])
    (productsNonempty : products ≠ []) :
    (spelledEquation reactants products).Plain where
  reactants :=
    isSide_map_text
      (fun term member => legible term (List.mem_append_left _ member))
      reactantsNonempty
  products :=
    isSide_map_text
      (fun term member => legible term (List.mem_append_right _ member))
      productsNonempty

theorem netCoefficient_spelledEquation
    (sorted : symbols.Pairwise (· < ·))
    (species : String) :
    Vocabulary.netCoefficient { symbols } (spelledEquation reactants products) species =
      counted species products - counted species reactants := by
  have reactantsEq :=
    amount_countedTerms sorted
      (fun term member => legible term (List.mem_append_left products member)) species
  have productsEq :=
    amount_countedTerms sorted
      (fun term member => legible term (List.mem_append_right reactants member)) species
  rw [Vocabulary.netCoefficient, spelledEquation, reactantsEq, productsEq]

end Sides

variable {α : Type} [Quantity α]

/--
The stoichiometry of spelled terms is what the products count of each species less what
the reactants count of it.
-/
theorem stoichiometry_of_spelled_terms
    {registry : Registry α}
    (filled : registry.Filled)
    {reactants products : List SpelledTerm}
    (reactantsNonempty : reactants ≠ [])
    (productsNonempty : products ≠ [])
    (legible : ∀ term ∈ reactants ++ products, term.Legible registry.symbols)
    (reaction :
      registry.vocabulary.classify (spelledEquation reactants products) = .reaction)
    {energetics : String}
    (field : simplify energetics.toList ≠ [])
    (ordinal : Nat) :
    ∃ compiled : Noted (Descriptor α),
      registry.vocabulary.compile
          (processLine (spelledEquation reactants products) energetics) ordinal =
        .ok compiled ∧
        (∀ term ∈ reactants ++ products,
            term.species ∈ compiled.value.species) ∧
          compiled.value.stoichiometry =
            some
              (compiled.value.species.map fun species =>
                counted species products - counted species reactants) := by
  have plain :=
    plain_spelledEquation legible reactantsNonempty productsNonempty
  refine
    ⟨registry.vocabulary.describe (spelledEquation reactants products).text
        (spelledEquation reactants products)
        (Vocabulary.fieldEnergetics (simplify energetics.toList)) ordinal,
      ?_, ?_, ?_⟩
  · refine
      (registry.vocabulary.compile_eq_ok_iff).mpr
        ⟨spelledEquation reactants products, ?_⟩
    rw [Vocabulary.lineFields_processLine_simplify plain, String.ofList_toList]
    exact ⟨plain.ofText?_text, List.isEmpty_eq_false_iff.mpr field, rfl⟩
  · intro term member
    rw [Vocabulary.value_describe]
    exact mem_participants_spelledEquation (legible term member) member
  · rw [Vocabulary.value_describe, Vocabulary.descriptorOf, if_pos reaction]
    refine congrArg some (List.map_congr_left fun species _ => ?_)
    exact netCoefficient_spelledEquation legible filled.pairwise_symbols species

/-- A species whose symbol begins with that of the other. -/
def pairRegistry : Registry ℚ :=
  { species := [{ symbol := "A", weight := 1 }, { symbol := "A2", weight := 2 }] }

theorem filled_pairRegistry : pairRegistry.Filled := by
  have first :
      ({} : Registry ℚ).addSpecies "A" 1 =
        .ok { species := [{ symbol := "A", weight := 1 }] } := by
    rfl
  have second :
      ({ species := [{ symbol := "A", weight := 1 }] } : Registry ℚ).addSpecies
          "A2" 2 =
        .ok pairRegistry := by
    rfl
  exact (Registry.Filled.empty.addSpecies first).addSpecies second

/-- Two pairs without a place on the surface. -/
def twoPairs : SpelledTerm :=
  { coefficient := 2
    omitted := false
    species := "A2"
    adsorbed := false }

def fourSingles : SpelledTerm :=
  { coefficient := 4
    omitted := false
    species := "A"
    adsorbed := true }

theorem legible_twoPairs : twoPairs.Legible pairRegistry.symbols where
  coefficient_le := by decide
  one_of_omitted := nofun
  declared := by decide
  begins := by decide
  plain := by simp [twoPairs, isBlank, Vocabulary.fieldMark]
  arrow_free := by decide
  longest := by
    refine
      List.forall_mem_cons.mpr
        ⟨fun _ => ?_, List.forall_mem_singleton.mpr fun _ => ?_⟩
    · exact Or.inl (by decide)
    · exact Or.inr ⟨rfl, le_rfl⟩

theorem legible_fourSingles : fourSingles.Legible pairRegistry.symbols where
  coefficient_le := by decide
  one_of_omitted := nofun
  declared := by decide
  begins := by decide
  plain := by simp [fourSingles, isBlank, Vocabulary.fieldMark]
  arrow_free := by decide
  longest := by
    refine
      List.forall_mem_cons.mpr
        ⟨fun _ => ?_, List.forall_mem_singleton.mpr fun present => ?_⟩
    · exact Or.inr ⟨rfl, le_rfl⟩
    · exact absurd present (by decide)

theorem stoichiometry_of_spelled_terms_pairs :
    ∃ compiled : Noted (Descriptor ℚ),
      pairRegistry.vocabulary.compile
          (processLine (spelledEquation [twoPairs] [fourSingles]) "1.0e13") 0 =
        .ok compiled ∧
        compiled.value.stoichiometry =
          some
            (compiled.value.species.map fun species =>
              counted species [fourSingles] - counted species [twoPairs]) := by
  have legible :
      ∀ term ∈ [twoPairs] ++ [fourSingles], term.Legible pairRegistry.symbols :=
    List.forall_mem_cons.mpr
      ⟨legible_twoPairs, List.forall_mem_singleton.mpr legible_fourSingles⟩
  have field : simplify "1.0e13".toList ≠ [] := by decide +kernel
  rcases
    stoichiometry_of_spelled_terms filled_pairRegistry (List.cons_ne_nil _ _)
      (List.cons_ne_nil _ _) legible (by decide +kernel) field 0 with
    ⟨compiled, compiles, _, stoichiometryEq⟩
  exact ⟨compiled, compiles, stoichiometryEq⟩

end SurfaceKinetics
