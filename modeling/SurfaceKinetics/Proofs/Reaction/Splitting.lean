import Mathlib.Data.List.Induction
import SurfaceKinetics.Proofs.Reaction.Description
import SurfaceKinetics.Proofs.Text.Occurrences

/-!
# Splitting an equation

Splitting a text gives an equation whose terms are phrases without plus signs, and whose
reactants have no arrow in them.  Products may have arrows, since the first one counts.
The usual spelling of such an equation puts a space on both sides of each mark, so none
of its marks is made by the ends of terms, and splitting it gives the equation again.

The words of a text settle its equation.  So a process line describes the same process,
but for the reaction it quotes, when its equation is spelled in the usual way.
-/

namespace SurfaceKinetics

/-! ## One side -/

/-- The usual spelling of one side. -/
def sideText (terms : List String) : List Char :=
  (" + ".intercalate terms).toList

theorem sideText_singleton (term : String) : sideText [term] = term.toList := by
  simp [sideText]

theorem sideText_cons
    (term : String)
    {terms : List String}
    (nonempty : terms ≠ []) :
    sideText (term :: terms) =
      term.toList ++ ' ' :: '+' :: ' ' :: sideText terms := by
  have others : terms.map String.toList ≠ [] := by simpa using nonempty
  rw [sideText, String.toList_intercalate, List.map_cons,
    List.intercalate_cons_of_ne_nil others, List.append_assoc, sideText,
    String.toList_intercalate]
  rfl

/-- A letter of a side belongs to a term, or to what stands between terms. -/
theorem mem_sideText
    {terms : List String}
    {letter : Char}
    (member : letter ∈ sideText terms) :
    letter = ' ' ∨ letter = '+' ∨ ∃ term ∈ terms, letter ∈ term.toList := by
  rcases eq_or_ne terms [] with rfl | nonempty
  · cases member
  · induction terms, nonempty using List.recNeNil with
    | singleton term =>
        rw [sideText_singleton] at member
        exact Or.inr (Or.inr ⟨term, List.mem_singleton_self term, member⟩)
    | cons term terms nonempty induction =>
        rw [sideText_cons term nonempty] at member
        simp only [List.mem_append, List.mem_cons] at member
        rcases member with inTerm | space | plus | space | inOthers
        · exact Or.inr (Or.inr ⟨term, List.mem_cons_self, inTerm⟩)
        · exact Or.inl space
        · exact Or.inr (Or.inl plus)
        · exact Or.inl space
        · refine (induction inOthers).imp_right (Or.imp_right ?_)
          rintro ⟨other, listed, inOther⟩
          exact ⟨other, List.mem_cons_of_mem term listed, inOther⟩

/-- Terms can be told apart when plus signs stand between them. -/
structure IsSum (terms : List String) : Prop where
  nonempty : terms ≠ []
  phrase : ∀ term ∈ terms, IsPhrase term.toList
  plus_notMem : ∀ term ∈ terms, '+' ∉ term.toList

namespace IsSum

variable {terms : List String} (sum : IsSum terms)

include sum

theorem isPhrase_sideText : IsPhrase (sideText terms) := by
  rcases sum with ⟨nonempty, phrase, -⟩
  induction terms, nonempty using List.recNeNil with
  | singleton term =>
      rw [sideText_singleton]
      exact phrase term (List.mem_singleton_self term)
  | cons term terms nonempty induction =>
      have plus : IsPhrase ['+'] :=
        .of_isWord ⟨List.cons_ne_nil _ _, List.forall_mem_singleton.mpr rfl⟩
      rw [List.forall_mem_cons] at phrase
      rw [sideText_cons term nonempty]
      exact phrase.1.append_space (plus.append_space (induction phrase.2))

/-- No arrow is made where terms meet. -/
theorem arrow_free_sideText
    (free : ∀ term ∈ terms, occurs Equation.arrow term.toList = false) :
    occurs Equation.arrow (sideText terms) = false := by
  rcases sum with ⟨nonempty, -, -⟩
  induction terms, nonempty using List.recNeNil with
  | singleton term =>
      rw [sideText_singleton]
      exact free term (List.mem_singleton_self term)
  | cons term terms nonempty induction =>
      have apart : ' ' ∉ Equation.arrow := by decide
      have marked : Equation.arrow ≠ [] := by decide
      have plus :=
        occurs_append_cons apart marked Equation.plus (sideText terms)
      rw [List.forall_mem_cons] at free
      rw [sideText_cons term nonempty, occurs_append_cons apart marked, free.1,
        Bool.false_or]
      exact plus.trans (congrArg _ (induction free.2))

/-- The terms of a side are read back from its spelling. -/
theorem pieces_sideText
    {blanks : List Char}
    (only : ∀ letter ∈ blanks, isBlank letter = true) :
    pieces Equation.plus (sideText terms ++ blanks) =
      terms.map String.toList := by
  rcases sum with ⟨nonempty, phrase, plusNotMem⟩
  induction terms, nonempty using List.recNeNil with
  | singleton term =>
      rw [List.forall_mem_singleton] at phrase plusNotMem
      rw [sideText_singleton]
      exact phrase.pieces_append_blanks plusNotMem only rfl
  | cons term terms nonempty induction =>
      rw [List.forall_mem_cons] at phrase plusNotMem
      have split :
          sideText (term :: terms) ++ blanks =
            (term.toList ++ [' ']) ++ '+' :: ' ' :: (sideText terms ++ blanks) := by
        rw [sideText_cons term nonempty]
        simp
      have first : pieces ['+'] (term.toList ++ [' ']) = [term.toList] :=
        phrase.1.pieces_append_blanks plusNotMem.1
          (List.forall_mem_singleton.mpr rfl) rfl
      have others :
          pieces ['+'] (sideText terms ++ blanks) = terms.map String.toList :=
        induction phrase.2 plusNotMem.2
      rw [split, Equation.plus, pieces_append_separator,
        pieces_cons_blank rfl (by decide), first, others, List.map_cons,
        List.singleton_append]

theorem terms_sideText
    {blanks : List Char}
    (only : ∀ letter ∈ blanks, isBlank letter = true) :
    Equation.terms (sideText terms ++ blanks) = terms := by
  rw [Equation.terms, sum.pieces_sideText only, List.map_map]
  simp

end IsSum

/-! ## Equations -/

namespace Equation

theorem toList_text (equation : Equation) :
    equation.text.toList =
      sideText equation.reactants ++
        ' ' :: (arrow ++ ' ' :: sideText equation.products) := by
  simp [text, sideText, arrow]

/-- No comma is in the spelling of terms without commas. -/
theorem fieldMark_notMem_text_of_terms
    {equation : Equation}
    (free : ∀ term ∈ equation.allTerms, Vocabulary.fieldMark ∉ term.toList) :
    Vocabulary.fieldMark ∉ equation.text.toList := by
  have sideFree :
      ∀ terms, (∀ term ∈ terms, Vocabulary.fieldMark ∉ term.toList) →
        Vocabulary.fieldMark ∉ sideText terms := by
    intro terms others member
    rcases mem_sideText member with space | plus | ⟨term, listed, inside⟩
    · exact absurd space (by decide)
    · exact absurd plus (by decide)
    · exact others term listed inside
  rw [allTerms, List.forall_mem_append] at free
  rw [toList_text]
  intro member
  rcases List.mem_append.mp member with inside | inside
  · exact sideFree _ free.1 inside
  · simp only [arrow, List.mem_cons, List.mem_append, List.not_mem_nil,
      Vocabulary.fieldMark, Char.reduceEq, false_or, or_false] at inside
    exact sideFree _ free.2 inside

theorem isWord_arrow : IsWord arrow :=
  ⟨List.cons_ne_nil _ _,
    List.forall_mem_cons.mpr ⟨rfl, List.forall_mem_singleton.mpr rfl⟩⟩

/-- The sides of an equation and their terms can be told apart in its spelling. -/
structure Separable (equation : Equation) : Prop where
  reactants : IsSum equation.reactants
  products : IsSum equation.products
  arrow_free : ∀ term ∈ equation.reactants, ¬ arrow <:+: term.toList

namespace Separable

variable {equation : Equation} (separable : equation.Separable)

include separable

theorem isPhrase_text : IsPhrase equation.text.toList := by
  rw [toList_text]
  exact
    separable.reactants.isPhrase_sideText.append_space
      ((IsPhrase.of_isWord isWord_arrow).append_space
        separable.products.isPhrase_sideText)

/-- An equation is read back from its spelling. -/
theorem ofText?_text {α : Type} :
    Equation.ofText? (α := α) equation.text.toList = .ok equation := by
  have free :
      ∀ term ∈ equation.reactants, occurs arrow term.toList = false := by
    intro term member
    rw [Bool.eq_false_iff, ne_eq, occurs_iff_isInfix]
    exact separable.arrow_free term member
  -- An arrow has no space, so none can begin among the reactants and end later.
  have cut :
      cutAt? arrow equation.text.toList =
        some
          (sideText equation.reactants ++ [' '],
            ' ' :: sideText equation.products) := by
    rw [toList_text,
      cutAt?_append_cons (by decide) (by decide)
        (separable.reactants.arrow_free_sideText free),
      cutAt?_append (by decide)]
    rfl
  have left : terms (sideText equation.reactants ++ [' ']) = equation.reactants :=
    separable.reactants.terms_sideText (List.forall_mem_singleton.mpr rfl)
  have right : terms (' ' :: sideText equation.products) = equation.products := by
    have whole := separable.products.terms_sideText (List.forall_mem_nil _)
    rw [List.append_nil] at whole
    have led :
        pieces plus (' ' :: sideText equation.products) =
          pieces plus (sideText equation.products) :=
      pieces_cons_blank rfl (by decide) _
    exact (congrArg (List.map String.ofList) led).trans whole
  have reactants : equation.reactants.isEmpty = false :=
    List.isEmpty_eq_false_iff.mpr separable.reactants.nonempty
  have products : equation.products.isEmpty = false :=
    List.isEmpty_eq_false_iff.mpr separable.products.nonempty
  rw [ofText?, cut]
  simp only [left, right, reactants, products, Bool.or_self, Bool.false_eq_true,
    if_false]
  rfl

end Separable

/-! ## Splitting -/

section Splitting

variable {α : Type}

/-- An equation is split at the first arrow, and has terms on both sides of it. -/
theorem ofText?_eq_ok_iff {text : List Char} {equation : Equation} :
    ofText? (α := α) text = .ok equation ↔
      ∃ before after,
        cutAt? arrow text = some (before, after) ∧
          terms before = equation.reactants ∧
            terms after = equation.products ∧
              equation.reactants ≠ [] ∧ equation.products ≠ [] := by
  rw [ofText?]
  constructor
  · intro split
    split at split
    · cases split
    · next before after cut =>
      split_ifs at split with empty
      cases split
      rw [Bool.or_eq_true, not_or, List.isEmpty_iff, List.isEmpty_iff] at empty
      exact ⟨before, after, cut, rfl, rfl, empty⟩
  · rcases equation with ⟨reactants, products⟩
    rintro ⟨before, after, cut, rfl, rfl, left, right⟩
    rw [cut]
    dsimp only at left right ⊢
    rw [if_neg]
    · rfl
    · rw [Bool.or_eq_true, not_or, List.isEmpty_iff, List.isEmpty_iff]
      exact ⟨left, right⟩

theorem isSum_terms {side : List Char} (nonempty : terms side ≠ []) :
    IsSum (terms side) where
  nonempty := nonempty
  phrase term member := by
    rcases List.mem_map.mp member with ⟨piece, listed, rfl⟩
    rw [String.toList_ofList]
    exact (of_mem_pieces rfl listed).1
  plus_notMem term member := by
    rcases List.mem_map.mp member with ⟨piece, listed, rfl⟩
    rw [String.toList_ofList]
    exact (of_mem_pieces rfl listed).2.1

theorem terms_congr_words
    {left right : List Char}
    (same : words left = words right) :
    terms left = terms right :=
  congrArg (List.map String.ofList) (pieces_congr_words rfl same)

/-- What occurs in a term occurs on its side. -/
theorem isInfix_of_mem_terms
    {side pattern : List Char}
    {term : String}
    (member : term ∈ terms side)
    (word : IsWord pattern)
    (inside : pattern <:+: term.toList) :
    pattern <:+: side := by
  rcases List.mem_map.mp member with ⟨piece, listed, rfl⟩
  rw [String.toList_ofList] at inside
  exact (of_mem_pieces rfl listed).2.2 pattern word inside

/-- The sides and terms of an equation that a text spells can be told apart. -/
theorem separable_of_ofText?
    {text : List Char}
    {equation : Equation}
    (split : ofText? (α := α) text = .ok equation) :
    equation.Separable := by
  rcases ofText?_eq_ok_iff.mp split with
    ⟨before, after, cut, reactantsEq, productsEq, left, right⟩
  rw [← reactantsEq] at left
  rw [← productsEq] at right
  refine ⟨reactantsEq ▸ isSum_terms left, productsEq ▸ isSum_terms right, ?_⟩
  rw [← reactantsEq]
  intro term member inside
  have first := cutAt?_eq_some_iff.mp cut
  exact first.free_before isWord_arrow.nonempty
    (isInfix_of_mem_terms member isWord_arrow inside)

/-- No comma comes into the usual spelling of an equation without commas. -/
theorem fieldMark_notMem_text_of_ofText?
    {text : List Char}
    (unmarked : Vocabulary.fieldMark ∉ text)
    {equation : Equation}
    (split : ofText? (α := α) text = .ok equation) :
    Vocabulary.fieldMark ∉ equation.text.toList := by
  rcases ofText?_eq_ok_iff.mp split with
    ⟨before, after, cut, reactantsEq, productsEq, -⟩
  have textEq := (cutAt?_eq_some_iff.mp cut).text_eq
  have mark : IsWord [Vocabulary.fieldMark] :=
    ⟨List.cons_ne_nil _ _, List.forall_mem_singleton.mpr rfl⟩
  have sideFree :
      ∀ side, Vocabulary.fieldMark ∉ side →
        ∀ term ∈ terms side, Vocabulary.fieldMark ∉ term.toList := by
    intro side free term member inside
    rw [← List.singleton_infix_iff] at free inside
    exact free (isInfix_of_mem_terms member mark inside)
  apply fieldMark_notMem_text_of_terms
  rw [textEq, List.mem_append, List.mem_append, not_or, not_or] at unmarked
  rw [allTerms, List.forall_mem_append, ← reactantsEq, ← productsEq]
  exact ⟨sideFree before unmarked.1, sideFree after unmarked.2.2⟩

/-- The words of a text settle its equation. -/
theorem ofText?_congr_words
    {left right : List Char}
    (same : words left = words right)
    {equation : Equation}
    (split : ofText? (α := α) left = .ok equation) :
    ofText? (α := α) right = .ok equation := by
  rcases ofText?_eq_ok_iff.mp split with
    ⟨before, after, cut, reactantsEq, productsEq, nonempty⟩
  rcases exists_cutAt?_of_words_eq same isWord_arrow cut with
    ⟨start, rest, found, beforeWords, afterWords⟩
  refine ofText?_eq_ok_iff.mpr ⟨start, rest, found, ?_, ?_, nonempty⟩
  · rw [← reactantsEq, terms_congr_words beforeWords]
  · rw [← productsEq, terms_congr_words afterWords]

end Splitting

end Equation

/-! ## Process lines -/

/-- A line with an equation, a comma and a field. -/
def lineOf (spelled field : String) : String := spelled ++ "," ++ field

namespace Vocabulary

/-- The comma of a line stands behind an equation without commas. -/
theorem lineFields_lineOf
    {spelled : String}
    (unmarked : fieldMark ∉ spelled.toList)
    (field : String) :
    lineFields (lineOf spelled field) =
      (simplify spelled.toList, simplify field.toList) := by
  have letters :
      (lineOf spelled field).toList = spelled.toList ++ fieldMark :: field.toList := by
    simp [lineOf, fieldMark]
  have before : ∀ letter ∈ spelled.toList, (letter != fieldMark) = true :=
    fun letter member => bne_iff_ne.mpr (ne_of_mem_of_not_mem member unmarked)
  rw [lineFields, letters, List.takeWhile_append_of_pos before,
    List.dropWhile_append_of_pos before]
  simp

variable {α : Type} [Quantity α]

/-- A line compiles when its equation can be split and its field has a word. -/
theorem compile_lineOf_eq_ok_iff
    {vocabulary : Vocabulary}
    {spelled : String}
    (unmarked : fieldMark ∉ spelled.toList)
    {field : String}
    {ordinal : Nat}
    {compiled : Noted (Descriptor α)} :
    vocabulary.compile (lineOf spelled field) ordinal = .ok compiled ↔
      ∃ equation,
        Equation.ofText? (α := α) spelled.toList = .ok equation ∧
          (simplify field.toList).isEmpty = false ∧
            compiled =
              vocabulary.describe (String.ofList (simplify spelled.toList)) equation
                (fieldEnergetics (simplify field.toList)) ordinal := by
  rw [compile_eq_ok_iff, lineFields_lineOf unmarked]
  refine exists_congr fun equation => and_congr_left fun _ => ?_
  have same := words_simplify spelled.toList
  exact ⟨Equation.ofText?_congr_words same, Equation.ofText?_congr_words same.symm⟩

end Vocabulary

/--
Splitting a text gives terms that are simplified, not empty and free of plus signs, no
reactant with an arrow in it, and splitting the usual spelling of the equation gives the
equation again.  So a line without a comma in its equation, when it compiles, describes
the same process as the line with the usual spelling, but for the reaction it quotes.
-/
theorem equation_survives_respelling
    {α : Type}
    [Quantity α]
    (spelled : String) :
    (∀ equation,
        Equation.ofText? (α := α) spelled.toList = .ok equation →
          (∀ term ∈ equation.allTerms,
              term.toList ≠ [] ∧
                simplify term.toList = term.toList ∧ '+' ∉ term.toList) ∧
            (∀ term ∈ equation.reactants, ¬ Equation.arrow <:+: term.toList) ∧
              Equation.ofText? (α := α) equation.text.toList = .ok equation) ∧
      ∀ (vocabulary : Vocabulary) (field : String) (ordinal : Nat)
        (compiled : Noted (Descriptor α)),
        Vocabulary.fieldMark ∉ spelled.toList →
          vocabulary.compile (lineOf spelled field) ordinal = .ok compiled →
            ∃ equation again,
              Equation.ofText? (α := α) spelled.toList = .ok equation ∧
                vocabulary.compile (lineOf equation.text field) ordinal = .ok again ∧
                  again.value =
                    { compiled.value with reaction := equation.text } := by
  constructor
  · intro equation split
    have separable := Equation.separable_of_ofText? split
    refine ⟨?_, separable.arrow_free, separable.ofText?_text⟩
    have summed : ∀ terms, IsSum terms → ∀ term ∈ terms,
        term.toList ≠ [] ∧ simplify term.toList = term.toList ∧ '+' ∉ term.toList :=
      fun terms sum term member =>
        ⟨(sum.phrase term member).nonempty, (sum.phrase term member).simplify_eq,
          sum.plus_notMem term member⟩
    rw [Equation.allTerms, List.forall_mem_append]
    exact ⟨summed _ separable.reactants, summed _ separable.products⟩
  · intro vocabulary field ordinal compiled unmarked compiles
    rcases (Vocabulary.compile_lineOf_eq_ok_iff unmarked).mp compiles with
      ⟨equation, split, filled, rfl⟩
    have separable := Equation.separable_of_ofText? split
    have textUnmarked := Equation.fieldMark_notMem_text_of_ofText? unmarked split
    refine
      ⟨equation,
        vocabulary.describe equation.text equation
          (Vocabulary.fieldEnergetics (simplify field.toList)) ordinal,
        split, ?_, ?_⟩
    · refine
        (Vocabulary.compile_lineOf_eq_ok_iff textUnmarked).mpr
          ⟨equation, separable.ofText?_text, filled, ?_⟩
      rw [separable.isPhrase_text.simplify_eq, String.ofList_toList]
    · rw [Vocabulary.value_describe, Vocabulary.value_describe]
      rfl

/-- Terms that end and begin like an arrow, and an arrow among the products. -/
def arrowheads : Equation where
  reactants := ["A-", ">*"]
  products := ["B->C", "A"]

theorem equation_survives_respelling_arrowheads :
    ∃ compiled again : Noted (Descriptor Float),
      Vocabulary.compile { symbols := ["A", "B"] }
          (lineOf "A-\t+ >*->B->C + +A" "1.0 all") 0 =
        .ok compiled ∧
        arrowheads.text = "A- + >* -> B->C + A" ∧
          Equation.ofText? (α := Float) "A- + >* -> B->C + A".toList =
              .ok arrowheads ∧
            Vocabulary.compile { symbols := ["A", "B"] }
                (lineOf "A- + >* -> B->C + A" "1.0 all") 0 =
              .ok again ∧
              again.value =
                { compiled.value with reaction := "A- + >* -> B->C + A" } := by
  have textEq : arrowheads.text = "A- + >* -> B->C + A" := by decide +kernel
  have split :
      Equation.ofText? (α := Float) "A-\t+ >*->B->C + +A".toList = .ok arrowheads :=
    Equation.ofText?_eq_ok_iff.mpr
      ⟨"A-\t+ >*".toList, "B->C + +A".toList, by decide +kernel, by decide +kernel,
        by decide +kernel, by decide, by decide⟩
  have unmarked : Vocabulary.fieldMark ∉ "A-\t+ >*->B->C + +A".toList := by
    decide +kernel
  rcases equation_survives_respelling (α := Float) "A-\t+ >*->B->C + +A" with
    ⟨readBack, respelled⟩
  let vocabulary : Vocabulary := { symbols := ["A", "B"] }
  have compiles :
      vocabulary.compile (lineOf "A-\t+ >*->B->C + +A" "1.0 all") 0 =
        .ok
          (vocabulary.describe (String.ofList (simplify "A-\t+ >*->B->C + +A".toList))
            arrowheads
            (Vocabulary.fieldEnergetics (α := Float) (simplify "1.0 all".toList)) 0) :=
    (Vocabulary.compile_lineOf_eq_ok_iff unmarked).mpr
      ⟨arrowheads, split, by decide +kernel, rfl⟩
  rcases respelled vocabulary "1.0 all" 0 _ unmarked compiles with
    ⟨equation, again, splitAgain, compilesAgain, againEq⟩
  rw [split, Except.ok.injEq] at splitAgain
  subst splitAgain
  rw [textEq] at compilesAgain againEq
  have read := (readBack arrowheads split).2.2
  rw [textEq] at read
  exact ⟨_, again, compiles, textEq, read, compilesAgain, againEq⟩

end SurfaceKinetics
