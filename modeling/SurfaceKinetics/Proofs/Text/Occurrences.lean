import Mathlib.Data.List.Infix
import SurfaceKinetics.Proofs.Text.Pieces
import SurfaceKinetics.Proofs.Text.Spacing

/-!
# First occurrences

A text is cut at the first occurrence of a pattern: none starts before it.  A pattern
without blanks lies inside a word.  So the words of a text settle where it is cut and
into which pieces it falls, and how the words are spaced does not matter.
-/

namespace SurfaceKinetics

/-! ## Where a pattern occurs -/

theorem occurs_iff_isInfix {pattern text : List Char} :
    occurs pattern text = true ↔ pattern <:+: text := by
  induction text with
  | nil => rw [occurs, List.isEmpty_iff, List.infix_nil]
  | cons letter text induction =>
      rw [occurs, Bool.or_eq_true, List.isPrefixOf_iff_prefix, induction,
        List.infix_cons_iff]

/-- Two texts stand before and after the first occurrence of a pattern in a text. -/
structure IsFirstCut (pattern text before after : List Char) : Prop where
  text_eq : text = before ++ (pattern ++ after)
  first :
    ∀ start rest, text = start ++ (pattern ++ rest) → before.length ≤ start.length

namespace IsFirstCut

variable {pattern : List Char}

theorem of_isPrefix (after : List Char) :
    IsFirstCut pattern (pattern ++ after) [] after where
  text_eq := rfl
  first _ _ _ := Nat.zero_le _

/-- A letter that the pattern does not start at belongs to what stands before. -/
theorem cons_iff
    {letter : Char}
    {text before after : List Char}
    (elsewhere : ¬ pattern <+: letter :: text) :
    IsFirstCut pattern (letter :: text) before after ↔
      ∃ rest, before = letter :: rest ∧ IsFirstCut pattern text rest after := by
  constructor
  · rintro ⟨textEq, first⟩
    cases before with
    | nil => exact (elsewhere ⟨after, textEq.symm⟩).elim
    | cons other rest =>
        rw [List.cons_append, List.cons.injEq] at textEq
        rcases textEq with ⟨rfl, textEq⟩
        refine ⟨rest, rfl, textEq, fun start others otherEq => ?_⟩
        exact
          Nat.le_of_succ_le_succ
            (first (letter :: start) others (congrArg (letter :: ·) otherEq))
  · rintro ⟨rest, rfl, textEq, first⟩
    refine ⟨congrArg (letter :: ·) textEq, fun start others otherEq => ?_⟩
    cases start with
    | nil => exact (elsewhere ⟨others, otherEq.symm⟩).elim
    | cons other start =>
        rw [List.cons_append, List.cons.injEq] at otherEq
        exact Nat.succ_le_succ (first start others otherEq.2)

end IsFirstCut

theorem cutAt?_eq_some_iff {pattern text before after : List Char} :
    cutAt? pattern text = some (before, after) ↔
      IsFirstCut pattern text before after := by
  induction text generalizing before with
  | nil =>
      rw [cutAt?]
      constructor
      · intro cut
        split_ifs at cut with empty
        cases cut
        rw [List.isEmpty_iff.mp empty]
        exact .of_isPrefix []
      · intro cut
        rcases List.append_eq_nil_iff.mp cut.text_eq.symm with ⟨rfl, others⟩
        rcases List.append_eq_nil_iff.mp others with ⟨rfl, rfl⟩
        rfl
  | cons letter text induction =>
      rw [cutAt?]
      split_ifs with starts
      · rcases List.isPrefixOf_iff_prefix.mp starts with ⟨rest, textEq⟩
        rw [← textEq, List.drop_left, textEq]
        constructor
        · intro cut
          cases cut
          rw [← textEq]
          exact .of_isPrefix _
        · intro cut
          have startLe := cut.first [] rest textEq.symm
          have beforeEq := List.length_eq_zero_iff.mp (Nat.le_zero.mp startLe)
          subst beforeEq
          rw [List.append_cancel_left (textEq.trans cut.text_eq)]
      · rw [List.isPrefixOf_iff_prefix] at starts
        rw [IsFirstCut.cons_iff starts, Option.map_eq_some_iff]
        constructor
        · rintro ⟨⟨rest, others⟩, cut, cutEq⟩
          cases cutEq
          exact ⟨rest, rfl, induction.mp cut⟩
        · rintro ⟨rest, rfl, cut⟩
          exact ⟨(rest, after), induction.mpr cut, rfl⟩

theorem isSome_cutAt? (pattern text : List Char) :
    (cutAt? pattern text).isSome = occurs pattern text := by
  induction text with
  | nil =>
      rw [cutAt?, occurs]
      cases pattern <;> rfl
  | cons letter text induction =>
      rw [cutAt?, occurs]
      split_ifs with starts
      · rw [starts]
        rfl
      · rw [Option.isSome_map, induction, Bool.eq_false_iff.mpr starts,
          Bool.false_or]

theorem cutAt?_eq_none_iff {pattern text : List Char} :
    cutAt? pattern text = none ↔ ¬ pattern <:+: text := by
  rw [← occurs_iff_isInfix, ← isSome_cutAt?, Bool.not_eq_true,
    Option.isSome_eq_false_iff, Option.isNone_iff_eq_none]

/-- A pattern does not occur before its first occurrence. -/
theorem IsFirstCut.free_before
    {pattern text before after : List Char}
    (cut : IsFirstCut pattern text before after)
    (nonempty : pattern ≠ []) :
    ¬ pattern <:+: before := by
  rintro ⟨start, rest, rfl⟩
  have earlier :=
    cut.first start (rest ++ (pattern ++ after))
      (by rw [cut.text_eq]; simp only [List.append_assoc])
  have patternPos := List.length_pos_of_ne_nil nonempty
  rw [List.length_append, List.length_append] at earlier
  omega

theorem IsFirstCut.of_notMem
    {separator : Char}
    {before : List Char}
    (absent : separator ∉ before)
    (after : List Char) :
    IsFirstCut [separator] (before ++ separator :: after) before after where
  text_eq := rfl
  first start rest text_eq := by
    by_contra earlier
    have short : (start ++ [separator]).length ≤ before.length := by
      rw [List.length_append, List.length_singleton]
      omega
    have whole : start ++ [separator] <+: before ++ separator :: after :=
      ⟨rest, by rw [text_eq, List.append_assoc]⟩
    have inside :=
      List.prefix_of_prefix_length_le whole (List.prefix_append before _) short
    exact absent (inside.subset (List.mem_append_right start List.mem_cons_self))

/-- What follows a text does not change where the text is cut. -/
theorem IsFirstCut.append
    {pattern text before after : List Char}
    (cut : IsFirstCut pattern text before after)
    (rest : List Char) :
    IsFirstCut pattern (text ++ rest) before (after ++ rest) where
  text_eq := by rw [cut.text_eq, List.append_assoc, List.append_assoc]
  first start others other_eq := by
    by_contra earlier
    have short : (start ++ pattern).length ≤ text.length := by
      rw [cut.text_eq, List.length_append, List.length_append, List.length_append]
      omega
    have whole : start ++ pattern <+: text ++ rest :=
      ⟨others, by rw [other_eq, List.append_assoc]⟩
    rcases List.prefix_of_prefix_length_le whole (List.prefix_append text rest) short with
      ⟨behind, textEq⟩
    exact earlier (cut.first start behind (by rw [← textEq, List.append_assoc]))

/-! ## The first letter of a kind -/

/--
A property of texts holds when it holds of those without letters of a kind, and behind
such a text and a letter of the kind whenever it holds of what follows.
-/
@[elab_as_elim]
theorem parting_induction
    {motive : List Char → Prop}
    (test : Char → Bool)
    (unbroken : ∀ text, (∀ letter ∈ text, test letter = false) → motive text)
    (parted :
      ∀ before letter after,
        (∀ other ∈ before, test other = false) →
          test letter = true → motive after → motive (before ++ letter :: after))
    (text : List Char) :
    motive text := by
  -- What has been read since the last letter of the kind stands before the text.
  suffices general :
      ∀ before, (∀ letter ∈ before, test letter = false) →
        motive (before ++ text) from
    general [] (List.forall_mem_nil _)
  induction text with
  | nil =>
      intro before others
      rw [List.append_nil]
      exact unbroken before others
  | cons letter text induction =>
      intro before others
      cases found : test letter with
      | true =>
          exact
            parted before letter text others found
              (induction [] (List.forall_mem_nil _))
      | false =>
          have longer : ∀ other ∈ before ++ [letter], test other = false := by
            rw [List.forall_mem_append, List.forall_mem_singleton]
            exact ⟨others, found⟩
          rw [List.append_cons]
          exact induction (before ++ [letter]) longer

/-! ## Cutting at words -/

/-- The words before and after the first occurrence of a pattern in some words. -/
def cutWords
    (pattern : List Char) :
    List (List Char) → Option (List (List Char) × List (List Char))
  | [] => none
  | word :: others =>
    match cutAt? pattern word with
    | some (before, after) => some (words before, words after ++ others)
    | none => (cutWords pattern others).map fun cut => (word :: cut.1, cut.2)

theorem cutAt?_nil_of_ne_nil {pattern : List Char} (nonempty : pattern ≠ []) :
    cutAt? pattern [] = none := by
  rw [cutAt?, if_neg]
  rwa [List.isEmpty_iff]

/-- A text without blanks counts as its word, or as none when it is empty. -/
theorem cutWords_words_append
    {pattern : List Char}
    (nonempty : pattern ≠ [])
    {text : List Char}
    (unbroken : ∀ letter ∈ text, isBlank letter = false)
    (others : List (List Char)) :
    cutWords pattern (words text ++ others) =
      match cutAt? pattern text with
      | some (before, after) => some (words before, words after ++ others)
      | none =>
        (cutWords pattern others).map fun cut => (words text ++ cut.1, cut.2) := by
  rcases eq_or_ne text [] with rfl | filled
  · rw [cutAt?_nil_of_ne_nil nonempty, words_nil]
    exact (congrFun Option.map_id _).symm
  · rw [IsWord.words_eq ⟨filled, unbroken⟩, List.singleton_append, cutWords]
    rfl

/-- The words of a text settle which words stand before and after a pattern. -/
theorem map_words_cutAt?
    {pattern : List Char}
    (word : IsWord pattern)
    (text : List Char) :
    (cutAt? pattern text).map (Prod.map words words) =
      cutWords pattern (words text) := by
  induction text using parting_induction isBlank with
  | unbroken text unbroken =>
      rw [← List.append_nil (words text),
        cutWords_words_append word.nonempty unbroken]
      cases cutAt? pattern text with
      | none => rfl
      | some cut => exact congrArg some (Prod.ext rfl (List.append_nil _).symm)
  | parted before blank after unbroken blankEq induction =>
      have apart : blank ∉ pattern := by
        intro member
        rw [word.unbroken blank member] at blankEq
        cases blankEq
      rw [words_append_blank blankEq, cutWords_words_append word.nonempty unbroken]
      cases found : cutAt? pattern before with
      | none =>
          have free : occurs pattern before = false := by
            rw [← isSome_cutAt?, found]
            rfl
          rw [cutAt?_append_cons apart word.nonempty free, Option.map_map,
            ← induction, Option.map_map]
          congr 1
          funext cut
          exact Prod.ext (words_append_blank blankEq before cut.1) rfl
      | some cut =>
          have whole := (cutAt?_eq_some_iff.mp found).append (blank :: after)
          rw [cutAt?_eq_some_iff.mpr whole]
          exact congrArg some (Prod.ext rfl (words_append_blank blankEq cut.2 after))

/-! ## Texts with the same words -/

section SameWords

variable
    {left right : List Char}
    (same : words left = words right)

include same

theorem cutAt?_congr_words {pattern : List Char} (word : IsWord pattern) :
    (cutAt? pattern left).map (Prod.map words words) =
      (cutAt? pattern right).map (Prod.map words words) := by
  rw [map_words_cutAt? word, map_words_cutAt? word, same]

/-- A text with the same words is cut between the same words. -/
theorem exists_cutAt?_of_words_eq
    {pattern : List Char}
    (word : IsWord pattern)
    {before after : List Char}
    (cut : cutAt? pattern left = some (before, after)) :
    ∃ start rest,
      cutAt? pattern right = some (start, rest) ∧
        words before = words start ∧ words after = words rest := by
  have congr := cutAt?_congr_words same word
  rw [cut, Option.map_some, eq_comm, Option.map_eq_some_iff] at congr
  rcases congr with ⟨⟨start, rest⟩, found, wordsEq⟩
  rw [Prod.map_apply, Prod.map_apply, Prod.mk.injEq] at wordsEq
  exact ⟨start, rest, found, wordsEq.1.symm, wordsEq.2.symm⟩

theorem isInfix_congr_words {pattern : List Char} (word : IsWord pattern) :
    pattern <:+: left ↔ pattern <:+: right := by
  have congr := congrArg Option.isSome (cutAt?_congr_words same word)
  rw [Option.isSome_map, Option.isSome_map, isSome_cutAt?, isSome_cutAt?] at congr
  rw [← occurs_iff_isInfix, ← occurs_iff_isInfix, congr]

end SameWords

/-- The words of a text settle its pieces. -/
theorem pieces_congr_words
    {separator : Char}
    (visible : isBlank separator = false)
    {left right : List Char}
    (same : words left = words right) :
    pieces [separator] left = pieces [separator] right := by
  have word : IsWord [separator] :=
    ⟨List.cons_ne_nil _ _, List.forall_mem_singleton.mpr visible⟩
  induction left using parting_induction (· == separator) generalizing right with
  | unbroken left unbroken =>
      have absent : separator ∉ left := by
        intro member
        exact absurd (unbroken separator member) (by simp)
      have missing : separator ∉ right := by
        rwa [← List.singleton_infix_iff, isInfix_congr_words same word,
          List.singleton_infix_iff] at absent
      rw [pieces_of_notMem absent, pieces_of_notMem missing, simplify_congr same]
  | parted before letter after others letterEq induction =>
      rw [eq_of_beq letterEq] at same ⊢
      have absent : separator ∉ before := by
        intro member
        exact absurd (others separator member) (by simp)
      rcases exists_cutAt?_of_words_eq same word
          (cutAt?_eq_some_iff.mpr (.of_notMem absent after)) with
        ⟨start, rest, found, beforeWords, afterWords⟩
      have cut := cutAt?_eq_some_iff.mp found
      have first : pieces [separator] before = pieces [separator] start := by
        have free := cut.free_before word.nonempty
        rw [List.singleton_infix_iff] at free
        rw [pieces_of_notMem absent, pieces_of_notMem free,
          simplify_congr beforeWords]
      rw [cut.text_eq, List.singleton_append, pieces_append_separator,
        pieces_append_separator, first, induction afterWords]

/-! ## The pieces of a text -/

theorem words_eq_nil_iff {text : List Char} :
    words text = [] ↔ ∀ letter ∈ text, isBlank letter = true := by
  refine ⟨fun none => ?_, words_eq_nil⟩
  have visible : (text.filter fun letter => !isBlank letter) = [] := by
    rw [← flatten_words, none, List.flatten_nil]
  rw [List.filter_eq_nil_iff] at visible
  intro letter member
  simpa using visible letter member

theorem simplify_eq_nil_iff {text : List Char} :
    simplify text = [] ↔ ∀ letter ∈ text, isBlank letter = true := by
  rw [← words_eq_nil_iff]
  constructor
  · intro empty
    rw [← words_simplify, empty, words_nil]
  · intro none
    rw [simplify, none, List.intercalate_nil]

theorem isPhrase_simplify {text : List Char} (nonempty : simplify text ≠ []) :
    IsPhrase (simplify text) :=
  ⟨nonempty, simplify_simplify text⟩

section Separator

variable
    {separator : Char}
    (visible : isBlank separator = false)

/-- The piece of a text without separators is the text, when a word is in it. -/
theorem mem_pieces_iff_of_notMem
    {text piece : List Char}
    (absent : separator ∉ text) :
    piece ∈ pieces [separator] text ↔ simplify text ≠ [] ∧ piece = simplify text := by
  rw [pieces_of_notMem absent, List.mem_filter, List.mem_singleton,
    Bool.not_eq_true', List.isEmpty_eq_false_iff, and_comm]
  refine and_congr_left fun pieceEq => ?_
  rw [pieceEq]

include visible

/-- Pieces are phrases without separators, and what occurs in one occurs in the text. -/
theorem of_mem_pieces
    {text piece : List Char}
    (member : piece ∈ pieces [separator] text) :
    IsPhrase piece ∧
      separator ∉ piece ∧
        ∀ pattern, IsWord pattern → pattern <:+: piece → pattern <:+: text := by
  have alone :
      ∀ part, separator ∉ part → piece ∈ pieces [separator] part →
        IsPhrase piece ∧
          separator ∉ piece ∧
            ∀ pattern, IsWord pattern → pattern <:+: piece → pattern <:+: part := by
    intro part absent inPart
    rcases (mem_pieces_iff_of_notMem absent).mp inPart with ⟨nonempty, rfl⟩
    refine ⟨isPhrase_simplify nonempty, ?_, fun pattern word => ?_⟩
    · exact fun inside => absent (mem_of_mem_simplify visible inside)
    · exact (isInfix_congr_words (words_simplify part) word).mp
  induction text using parting_induction (· == separator) with
  | unbroken text others =>
      exact alone text (fun inside => absurd (others separator inside) (by simp)) member
  | parted before letter after others letterEq induction =>
      rw [eq_of_beq letterEq, pieces_append_separator, List.mem_append] at member
      rcases member with inBefore | inAfter
      · have absent : separator ∉ before := fun inside =>
          absurd (others separator inside) (by simp)
        rcases alone before absent inBefore with ⟨phrase, free, occurring⟩
        refine ⟨phrase, free, fun pattern word inside => ?_⟩
        exact (occurring pattern word inside).trans (List.prefix_append _ _).isInfix
      · rcases induction inAfter with ⟨phrase, free, occurring⟩
        refine ⟨phrase, free, fun pattern word inside => ?_⟩
        exact
          (occurring pattern word inside).trans
            ((List.suffix_cons letter after).trans (List.suffix_append _ _)).isInfix

omit visible in
/-- A text has no pieces when nothing is in it besides separators and blanks. -/
theorem pieces_eq_nil_iff {text : List Char} :
    pieces [separator] text = [] ↔
      ∀ letter ∈ text, letter = separator ∨ isBlank letter = true := by
  have alone :
      ∀ part, (∀ letter ∈ part, (letter == separator) = false) →
        (pieces [separator] part = [] ↔
          ∀ letter ∈ part, letter = separator ∨ isBlank letter = true) := by
    intro part others
    have absent : separator ∉ part := fun inside =>
      absurd (others separator inside) (by simp)
    have emptyIff : pieces [separator] part = [] ↔ simplify part = [] := by
      rw [pieces_of_notMem absent, List.filter_eq_nil_iff, List.forall_mem_singleton,
        Bool.not_eq_true', Bool.not_eq_false, List.isEmpty_iff]
    rw [emptyIff, simplify_eq_nil_iff]
    refine forall₂_congr fun letter inside => ?_
    rw [or_iff_right (ne_of_mem_of_not_mem inside absent)]
  induction text using parting_induction (· == separator) with
  | unbroken text others => exact alone text others
  | parted before letter after others letterEq induction =>
      rw [eq_of_beq letterEq, pieces_append_separator, List.append_eq_nil_iff,
        List.forall_mem_append, List.forall_mem_cons]
      refine and_congr (alone before others) (induction.trans ?_)
      exact (and_iff_right (Or.inl rfl)).symm

end Separator

end SurfaceKinetics
