import Mathlib.Data.List.Chain
import Mathlib.Data.List.TakeWhile
import SurfaceKinetics.Proofs.Text.Words
import SurfaceKinetics.Text.Line

/-!
# The spacing of texts

A simplified text with a word in it starts and ends with a letter that is not blank,
and its blanks are spaces that stand alone.  What is left of a line without its
comment is such a text, has no comment, and is left as it is by a second look.
-/

namespace SurfaceKinetics

/-- A text starts and ends visibly, with single spaces as its only blanks. -/
structure IsSpaced (text : List Char) : Prop where
  starts : ∃ letter ∈ text.head?, isBlank letter = false
  ends : ∃ letter ∈ text.getLast?, isBlank letter = false
  spaces : ∀ letter ∈ text, isBlank letter = true → letter = ' '
  single :
    text.IsChain fun letter next => isBlank letter = true → isBlank next = false

theorem IsWord.isSpaced {text : List Char} (word : IsWord text) : IsSpaced text where
  starts := by
    rcases List.exists_cons_of_ne_nil word.nonempty with ⟨letter, rest, rfl⟩
    exact ⟨letter, rfl, word.unbroken letter List.mem_cons_self⟩
  ends :=
    ⟨_, List.getLast?_eq_some_getLast word.nonempty,
      word.unbroken _ (List.getLast_mem word.nonempty)⟩
  spaces letter member blank := by
    rw [word.unbroken letter member] at blank
    cases blank
  single := by
    apply List.Pairwise.isChain
    apply List.pairwise_of_forall_mem_list
    intro letter _ next member _
    exact word.unbroken next member

/-- A space may stand between two spaced texts. -/
theorem IsSpaced.append_space
    {first second : List Char}
    (firstSpaced : IsSpaced first)
    (secondSpaced : IsSpaced second) :
    IsSpaced (first ++ ' ' :: second) where
  starts := by
    rcases firstSpaced.starts with ⟨letter, found, visible⟩
    refine ⟨letter, ?_, visible⟩
    rw [List.head?_append, Option.mem_def.mp found]
    rfl
  ends := by
    rcases secondSpaced.ends with ⟨letter, found, visible⟩
    refine ⟨letter, ?_, visible⟩
    rw [List.getLast?_append, List.getLast?_cons, Option.mem_def.mp found]
    rfl
  spaces letter member blank := by
    rcases List.mem_append.mp member with before | after
    · exact firstSpaced.spaces letter before blank
    · rcases List.mem_cons.mp after with space | behind
      · exact space
      · exact secondSpaced.spaces letter behind blank
  single := by
    rw [List.isChain_append, List.isChain_cons]
    refine ⟨firstSpaced.single, ⟨?_, secondSpaced.single⟩, ?_⟩
    · intro next found _
      rcases secondSpaced.starts with ⟨letter, start, visible⟩
      rw [Option.mem_def] at found start
      rw [start] at found
      cases found
      exact visible
    · intro last found _ _ blank
      rcases firstSpaced.ends with ⟨letter, finish, visible⟩
      rw [Option.mem_def] at found finish
      rw [finish] at found
      cases found
      rw [visible] at blank
      cases blank

/-- Words with single spaces between them are a spaced text. -/
theorem isSpaced_intercalate
    {texts : List (List Char)}
    (nonempty : texts ≠ [])
    (allWords : ∀ text ∈ texts, IsWord text) :
    IsSpaced ([' '].intercalate texts) := by
  induction texts with
  | nil => exact (nonempty rfl).elim
  | cons first texts induction =>
      have firstSpaced := (allWords first List.mem_cons_self).isSpaced
      cases texts with
      | nil =>
          rw [List.intercalate_singleton]
          exact firstSpaced
      | cons second texts =>
          have rest :=
            induction (List.cons_ne_nil _ _) fun text member =>
              allWords text (List.mem_cons_of_mem first member)
          rw [List.intercalate_cons_of_ne_nil (List.cons_ne_nil _ _),
            List.append_assoc]
          exact firstSpaced.append_space rest

theorem isSpaced_simplify
    {text : List Char}
    (nonempty : simplify text ≠ []) :
    IsSpaced (simplify text) := by
  refine isSpaced_intercalate ?_ fun _ => isWord_of_mem_words
  intro none
  apply nonempty
  rw [simplify, none]
  exact List.intercalate_nil

/-! ## The letters of words -/

/-- The words of a text are made of its letters that are not blank. -/
theorem flatten_words (text : List Char) :
    (words text).flatten = text.filter fun letter => !isBlank letter := by
  rw [words, List.flatten_filter_not_isEmpty]
  induction text with
  | nil => rfl
  | cons letter text induction =>
      rw [List.splitOnP_cons_eq_if_modifyHead]
      rcases List.exists_cons_of_ne_nil (List.splitOnP_ne_nil isBlank text) with
        ⟨head, others, partsEq⟩
      rw [partsEq] at induction ⊢
      split
      · next blank =>
          rw [List.filter_cons_of_neg (by simp [blank]), ← induction]
          rfl
      · next visible =>
          rw [List.filter_cons_of_pos (by simp [visible]), ← induction]
          rfl

/-- A visible letter of a simplified text is a letter of the text. -/
theorem mem_of_mem_simplify
    {letter : Char}
    {text : List Char}
    (visible : isBlank letter = false)
    (member : letter ∈ simplify text) :
    letter ∈ text := by
  have kept : letter ∈ (words (simplify text)).flatten := by
    rw [flatten_words]
    exact List.mem_filter.mpr ⟨member, by simp [visible]⟩
  rw [words_simplify, flatten_words] at kept
  exact (List.mem_filter.mp kept).1

/-! ## Significant texts -/

theorem commentMark_notMem_withoutComment (line : List Char) :
    commentMark ∉ withoutComment line := by
  intro member
  have different := List.mem_takeWhile_imp member
  exact (bne_iff_ne.mp different) rfl

theorem commentMark_notMem_significantText (line : List Char) :
    commentMark ∉ significantText line := by
  intro member
  exact
    commentMark_notMem_withoutComment line (mem_of_mem_simplify rfl member)

/-- A text without comments and needless blanks is what it leaves of itself. -/
theorem significantText_significantText (line : List Char) :
    significantText (significantText line) = significantText line := by
  have kept : withoutComment (significantText line) = significantText line := by
    apply List.takeWhile_eq_self_iff.mpr
    intro letter member
    apply bne_iff_ne.mpr
    rintro rfl
    exact commentMark_notMem_significantText line member
  rw [significantText, kept, significantText, simplify_simplify]

/-- A letter that ends lines stands in no significant text. -/
theorem newline_notMem_significantText (line : List Char) :
    '\n' ∉ significantText line := by
  by_cases empty : significantText line = []
  · rw [empty]
    exact List.not_mem_nil
  · intro member
    have spaced : IsSpaced (significantText line) := isSpaced_simplify empty
    cases spaced.spaces '\n' member rfl

end SurfaceKinetics
