import SurfaceKinetics.Text.Blank

/-!
# The words of a text

A blank parts the words of a text, and that is all that is needed of words: texts
without blanks are their own word, and words that are joined by single spaces are
the words of the text that this makes.  So a simplified text is simplified already,
and simplified texts with a space between them are a simplified text.
-/

namespace SurfaceKinetics

/-- A text is one word. -/
structure IsWord (text : List Char) : Prop where
  nonempty : text ≠ []
  unbroken : ∀ letter ∈ text, isBlank letter = false

/-! ## Words and blanks -/

/-- A blank parts the words before it from the words after it. -/
theorem words_append_blank
    {blank : Char}
    (blankEq : isBlank blank = true)
    (before after : List Char) :
    words (before ++ blank :: after) = words before ++ words after := by
  rw [words, List.splitOnP_append_cons before after blankEq,
    List.filter_append]
  rfl

theorem words_cons_blank
    {blank : Char}
    (blankEq : isBlank blank = true)
    (text : List Char) :
    words (blank :: text) = words text := by
  have parted := words_append_blank blankEq [] text
  rw [List.nil_append, words_nil, List.nil_append] at parted
  exact parted

theorem words_eq_nil
    {text : List Char}
    (blanks : ∀ letter ∈ text, isBlank letter = true) :
    words text = [] := by
  induction text with
  | nil => exact words_nil
  | cons letter text induction =>
      rw [words_cons_blank (blanks letter List.mem_cons_self)]
      exact induction fun other member =>
        blanks other (List.mem_cons_of_mem letter member)

theorem words_append_blanks
    {text blanks : List Char}
    (only : ∀ letter ∈ blanks, isBlank letter = true) :
    words (text ++ blanks) = words text := by
  cases blanks with
  | nil => rw [List.append_nil]
  | cons blank blanks =>
      rw [words_append_blank (only blank List.mem_cons_self),
        words_eq_nil fun letter member =>
          only letter (List.mem_cons_of_mem blank member),
        List.append_nil]

theorem IsWord.words_eq
    {text : List Char}
    (word : IsWord text) :
    words text = [text] := by
  have alone : text.splitOnP isBlank = [text] :=
    List.splitOnP_eq_singleton word.unbroken
  have kept : text.isEmpty = false := List.isEmpty_eq_false_iff.mpr word.nonempty
  rw [words, alone]
  simp [kept]

/-- The words of a text are words. -/
theorem isWord_of_mem_words
    {text word : List Char}
    (member : word ∈ words text) :
    IsWord word := by
  rw [words, List.mem_filter] at member
  rcases member with ⟨part, nonempty⟩
  refine ⟨by simpa using nonempty, ?_⟩
  clear nonempty
  induction text generalizing word with
  | nil =>
      rw [List.splitOnP_nil, List.mem_singleton] at part
      subst part
      exact List.forall_mem_nil _
  | cons first text induction =>
      rw [List.splitOnP_cons_eq_if_modifyHead] at part
      by_cases blank : isBlank first = true
      · rw [if_pos blank] at part
        rcases List.mem_cons.mp part with rfl | later
        · exact List.forall_mem_nil _
        · exact induction later
      · rw [if_neg blank] at part
        rcases List.exists_cons_of_ne_nil
            (List.splitOnP_ne_nil isBlank text) with
          ⟨head, others, partsEq⟩
        rw [partsEq, List.modifyHead_cons] at part
        rcases List.mem_cons.mp part with rfl | later
        · intro letter inside
          rcases List.mem_cons.mp inside with rfl | inside
          · exact Bool.eq_false_iff.mpr blank
          · exact
              induction (partsEq ▸ List.mem_cons_self) letter inside
        · exact induction (partsEq ▸ List.mem_cons_of_mem head later)

/-- Words joined by single spaces are the words of the text that this makes. -/
theorem words_intercalate
    {texts : List (List Char)}
    (allWords : ∀ text ∈ texts, IsWord text) :
    words ([' '].intercalate texts) = texts := by
  induction texts with
  | nil => exact words_nil
  | cons first texts induction =>
      have firstWord := allWords first List.mem_cons_self
      cases texts with
      | nil => rw [List.intercalate_singleton, firstWord.words_eq]
      | cons second texts =>
          have rest :=
            induction fun text member =>
              allWords text (List.mem_cons_of_mem first member)
          rw [List.intercalate_cons_of_ne_nil (List.cons_ne_nil _ _),
            List.append_assoc, List.singleton_append,
            words_append_blank rfl, firstWord.words_eq, rest,
            List.singleton_append]

/-! ## Simplified texts -/

theorem intercalate_space_append
    {first second : List (List Char)}
    (firstNonempty : first ≠ [])
    (secondNonempty : second ≠ []) :
    [' '].intercalate (first ++ second) =
      [' '].intercalate first ++ ' ' :: [' '].intercalate second := by
  induction first with
  | nil => exact (firstNonempty rfl).elim
  | cons text first induction =>
      cases first with
      | nil =>
          rw [List.singleton_append, List.intercalate_singleton,
            List.intercalate_cons_of_ne_nil secondNonempty, List.append_assoc,
            List.singleton_append]
      | cons next first =>
          have rest := induction (List.cons_ne_nil next first)
          rw [List.cons_append, List.intercalate_cons_of_ne_nil (by simp), rest,
            List.intercalate_cons_of_ne_nil (List.cons_ne_nil next first)]
          simp only [List.append_assoc, List.cons_append]

theorem words_simplify (text : List Char) :
    words (simplify text) = words text :=
  words_intercalate fun _ => isWord_of_mem_words

theorem simplify_congr
    {left right : List Char}
    (same : words left = words right) :
    simplify left = simplify right :=
  congrArg [' '].intercalate same

/-- Simplifying a simplified text changes nothing. -/
@[simp]
theorem simplify_simplify (text : List Char) :
    simplify (simplify text) = simplify text :=
  simplify_congr (words_simplify text)

theorem IsWord.simplify_eq
    {text : List Char}
    (word : IsWord text) :
    simplify text = text := by
  rw [simplify, word.words_eq, List.intercalate_singleton]

/-- A text that is simplified and has a word. -/
structure IsPhrase (text : List Char) : Prop where
  nonempty : text ≠ []
  simplify_eq : simplify text = text

instance (text : List Char) : Decidable (IsPhrase text) :=
  decidable_of_iff (text ≠ [] ∧ simplify text = text)
    ⟨fun phrase => ⟨phrase.1, phrase.2⟩, fun phrase => ⟨phrase.1, phrase.2⟩⟩

namespace IsPhrase

theorem words_ne_nil {text : List Char} (phrase : IsPhrase text) :
    words text ≠ [] := by
  intro none
  apply phrase.nonempty
  rw [← phrase.simplify_eq, simplify, none]
  exact List.intercalate_nil

theorem of_isWord {text : List Char} (word : IsWord text) : IsPhrase text :=
  ⟨word.nonempty, word.simplify_eq⟩

/-- Two phrases with a space between them are a phrase. -/
theorem append_space
    {first second : List Char}
    (firstPhrase : IsPhrase first)
    (secondPhrase : IsPhrase second) :
    IsPhrase (first ++ ' ' :: second) where
  nonempty := by simp
  simplify_eq := by
    have joined :=
      intercalate_space_append firstPhrase.words_ne_nil
        secondPhrase.words_ne_nil
    rw [simplify, words_append_blank rfl, joined]
    exact
      congr
        (congrArg _ firstPhrase.simplify_eq)
        (congrArg _ secondPhrase.simplify_eq)

end IsPhrase

end SurfaceKinetics
