import SurfaceKinetics.Proofs.Reaction.Splitting
import SurfaceKinetics.Proofs.Text.Numeral

/-!
# Spelling process lines

An equation whose terms are phrases without the marks of the notation is read back
from its usual spelling.  Followed by a comma and a numeral it is a process line
that compiles, with that number alone for its energetics.
-/

namespace SurfaceKinetics

/-- A phrase without the marks that part terms, sides and fields. -/
structure IsTerm (term : String) : Prop where
  phrase : IsPhrase term.toList
  plus_notMem : '+' ∉ term.toList
  fieldMark_notMem : Vocabulary.fieldMark ∉ term.toList
  arrow_free : occurs Equation.arrow term.toList = false

instance (term : String) : Decidable (IsTerm term) :=
  decidable_of_iff
    (IsPhrase term.toList ∧
      '+' ∉ term.toList ∧
        Vocabulary.fieldMark ∉ term.toList ∧
          occurs Equation.arrow term.toList = false)
    ⟨fun ⟨phrase, plus, mark, arrow⟩ => ⟨phrase, plus, mark, arrow⟩,
      fun ⟨phrase, plus, mark, arrow⟩ => ⟨phrase, plus, mark, arrow⟩⟩

/-- Terms that can stand on one side of an equation. -/
inductive IsSide : List String → Prop where
  | single {term : String} (isTerm : IsTerm term) : IsSide [term]
  | cons
      {term : String}
      {terms : List String}
      (isTerm : IsTerm term)
      (others : IsSide terms) :
      IsSide (term :: terms)

theorem isSide_iff {terms : List String} :
    IsSide terms ↔ terms ≠ [] ∧ ∀ term ∈ terms, IsTerm term := by
  constructor
  · intro side
    induction side with
    | single isTerm =>
        exact ⟨List.cons_ne_nil _ _, List.forall_mem_singleton.mpr isTerm⟩
    | cons isTerm others induction =>
        exact
          ⟨List.cons_ne_nil _ _,
            List.forall_mem_cons.mpr ⟨isTerm, induction.2⟩⟩
  · rintro ⟨nonempty, allTerms⟩
    induction terms with
    | nil => exact (nonempty rfl).elim
    | cons term terms induction =>
        rcases List.forall_mem_cons.mp allTerms with ⟨isTerm, others⟩
        cases terms with
        | nil => exact .single isTerm
        | cons next terms =>
            exact .cons isTerm (induction (List.cons_ne_nil next terms) others)

theorem IsSide.isSum {terms : List String} (side : IsSide terms) : IsSum terms where
  nonempty := (isSide_iff.mp side).1
  phrase term member := ((isSide_iff.mp side).2 term member).phrase
  plus_notMem term member := ((isSide_iff.mp side).2 term member).plus_notMem

/-! ## Equations -/

namespace Equation

/-- An equation can be read back from its usual spelling. -/
structure Plain (equation : Equation) : Prop where
  reactants : IsSide equation.reactants
  products : IsSide equation.products

namespace Plain

variable {equation : Equation} (plain : equation.Plain)

include plain

theorem separable : equation.Separable where
  reactants := plain.reactants.isSum
  products := plain.products.isSum
  arrow_free term member := by
    rw [← occurs_iff_isInfix, ((isSide_iff.mp plain.reactants).2 term member).arrow_free]
    exact Bool.false_ne_true

theorem fieldMark_notMem_text :
    Vocabulary.fieldMark ∉ equation.text.toList := by
  apply fieldMark_notMem_text_of_terms
  intro term member
  rcases List.mem_append.mp member with inReactants | inProducts
  · exact ((isSide_iff.mp plain.reactants).2 term inReactants).fieldMark_notMem
  · exact ((isSide_iff.mp plain.products).2 term inProducts).fieldMark_notMem

/-- An equation is read back from its spelling. -/
theorem ofText?_text {α : Type} :
    Equation.ofText? (α := α) equation.text.toList = .ok equation :=
  plain.separable.ofText?_text

end Plain

end Equation

/-! ## Process lines -/

/-- The usual spelling of a process line. -/
def processLine (equation : Equation) (energetics : String) : String :=
  equation.text ++ ", " ++ energetics

namespace Vocabulary

/-- The fields of a process line are its equation and what its field simplifies to. -/
theorem lineFields_processLine_simplify
    {equation : Equation}
    (plain : equation.Plain)
    (energetics : String) :
    lineFields (processLine equation energetics) =
      (equation.text.toList, simplify energetics.toList) := by
  have spelled :
      processLine equation energetics = lineOf equation.text (" " ++ energetics) := by
    have mark : ", " = "," ++ " " := rfl
    rw [processLine, lineOf, mark]
    simp only [String.append_assoc]
  have field : simplify (" " ++ energetics).toList = simplify energetics.toList := by
    rw [String.toList_append]
    exact simplify_congr (words_cons_blank rfl _)
  rw [spelled, lineFields_lineOf plain.fieldMark_notMem_text, field,
    plain.separable.isPhrase_text.simplify_eq]

theorem lineFields_processLine
    {equation : Equation}
    (plain : equation.Plain)
    {energetics : String}
    (word : IsWord energetics.toList) :
    lineFields (processLine equation energetics) =
      (equation.text.toList, energetics.toList) := by
  rw [lineFields_processLine_simplify plain, word.simplify_eq]

variable {α : Type} [Quantity α]

/-- A numeral gives a process one number and no options. -/
theorem fieldEnergetics_of_number?
    {constant : String}
    {value : α}
    (spelled : number? constant = some value) :
    fieldEnergetics (α := α) constant.toList =
      { values := [value], options := [] } := by
  rcases Option.map_eq_some_iff.mp spelled with ⟨literal, read, _⟩
  have unmarked :
      (constant.toList.map fun letter =>
          if letter = fieldMark then ' ' else letter) =
        constant.toList := by
    refine (List.map_congr_left ?_).trans (List.map_id _)
    intro letter member
    have admitted := NumeralLetters.of_numeral? read letter member
    rw [if_neg]
    · rfl
    · rintro rfl
      exact absurd admitted (by decide)
  have numeral : isNumeral constant = true := by
    rw [isNumeral, read]
    rfl
  rw [fieldEnergetics, unmarked, Energetics.ofField,
    (isWord_of_numeral? read).words_eq]
  simp [Energetics.ofWords, spelled, numeral]

/-- An equation and a numeral are a line that compiles. -/
theorem compile_processLine
    (vocabulary : Vocabulary)
    {equation : Equation}
    (plain : equation.Plain)
    {constant : String}
    {value : α}
    (spelled : number? constant = some value)
    (ordinal : Nat) :
    vocabulary.compile (processLine equation constant) ordinal =
      .ok
        (vocabulary.describe equation.text equation
          { values := [value], options := [] } ordinal) := by
  rcases Option.map_eq_some_iff.mp spelled with ⟨literal, read, _⟩
  have word := isWord_of_numeral? read
  refine (vocabulary.compile_eq_ok_iff).mpr ⟨equation, ?_⟩
  rw [lineFields_processLine plain word]
  refine ⟨plain.ofText?_text, ?_, ?_⟩
  · exact List.isEmpty_eq_false_iff.mpr word.nonempty
  · rw [fieldEnergetics_of_number? spelled, String.ofList_toList]

end Vocabulary

end SurfaceKinetics
