import SurfaceKinetics.Proofs.Text.Words
import SurfaceKinetics.Text.Pieces

/-!
# Cutting a text and putting it together

A text is parted from left to right: a letter that the pattern does not start at
belongs to the first part, and an occurrence of the pattern ends that part.

A pattern of one character parts a text like a separator, so the pieces on both
sides of one are the pieces of the whole.  A pattern without spaces cannot reach
across a space: it occurs in a text with a space in it when it occurs before the
space or after it, and a text is cut in the part where it occurs first.
-/

namespace SurfaceKinetics

/-! ## Parts -/

section Parts

variable {pattern : List Char} (nonempty : pattern ≠ [])

include nonempty

theorem parts_eq (text : List Char) : parts pattern text = partsFrom pattern 0 text := by
  rw [parts, if_neg (by simpa using nonempty)]

omit nonempty in
theorem partsFrom_ne_nil (pattern : List Char) (left : Nat) (text : List Char) :
    partsFrom pattern left text ≠ [] := by
  induction text generalizing left with
  | nil => exact List.cons_ne_nil _ _
  | cons letter text induction =>
      cases left with
      | succ left => exact induction left
      | zero =>
          rw [partsFrom]
          split
          · exact List.cons_ne_nil _ _
          · split <;> exact List.cons_ne_nil _ _

theorem parts_ne_nil (text : List Char) : parts pattern text ≠ [] := by
  rw [parts_eq nonempty]
  exact partsFrom_ne_nil pattern 0 text

theorem parts_nil : parts pattern [] = [[]] := by
  rw [parts_eq nonempty]
  rfl

/-- A letter that the pattern does not start at belongs to the first part. -/
theorem parts_cons
    {letter : Char}
    {text : List Char}
    (elsewhere : ¬ pattern <+: letter :: text) :
    parts pattern (letter :: text) =
      (parts pattern text).modifyHead (letter :: ·) := by
  rw [parts_eq nonempty, parts_eq nonempty, partsFrom,
    if_neg (mt List.isPrefixOf_iff_prefix.mp elsewhere)]
  rcases List.exists_cons_of_ne_nil (partsFrom_ne_nil pattern 0 text) with
    ⟨part, others, partsEq⟩
  rw [partsEq]
  rfl

omit nonempty in
theorem partsFrom_length_append (skipped text : List Char) :
    partsFrom pattern skipped.length (skipped ++ text) = partsFrom pattern 0 text := by
  induction skipped with
  | nil => rfl
  | cons letter skipped induction =>
      rw [List.cons_append, List.length_cons, partsFrom, induction]

/-- Before a pattern that a text begins with there is an empty part. -/
theorem parts_append_self (text : List Char) :
    parts pattern (pattern ++ text) = [] :: parts pattern text := by
  rw [parts_eq nonempty, parts_eq nonempty]
  cases pattern with
  | nil => exact (nonempty rfl).elim
  | cons first pattern =>
      rw [List.cons_append, partsFrom, if_pos (by simp), List.length_cons,
        Nat.add_sub_cancel, partsFrom_length_append]

end Parts

/-! ## Separators -/

theorem not_singleton_isPrefix
    {separator letter : Char}
    (distinct : letter ≠ separator)
    (text : List Char) :
    ¬ [separator] <+: letter :: text :=
  fun starts => distinct (List.cons_prefix_cons.mp starts).1.symm

/-- The parts around a character are those of splitting at it. -/
theorem parts_singleton (separator : Char) (text : List Char) :
    parts [separator] text = text.splitOn separator := by
  have nonempty : [separator] ≠ [] := List.cons_ne_nil _ _
  induction text with
  | nil => rfl
  | cons letter text induction =>
      rw [List.splitOn, List.splitOnP_cons_eq_if_modifyHead]
      by_cases same : letter = separator
      · subst same
        rw [if_pos (beq_self_eq_true letter)]
        exact
          (parts_append_self nonempty text).trans (congrArg ([] :: ·) induction)
      · rw [if_neg (by simpa using same),
          parts_cons nonempty (not_singleton_isPrefix same text), induction]
        rfl

/-- The pieces before a separator come before the pieces after it. -/
theorem pieces_append_separator
    (separator : Char)
    (before after : List Char) :
    pieces [separator] (before ++ separator :: after) =
      pieces [separator] before ++ pieces [separator] after := by
  have parted :
      parts [separator] (before ++ separator :: after) =
        parts [separator] before ++ parts [separator] after := by
    simp only [parts_singleton]
    exact List.splitOnP_append_cons before after (beq_self_eq_true separator)
  rw [pieces, parted, List.map_append, List.filter_append]
  rfl

/-- Blanks at the front belong to no piece. -/
theorem pieces_cons_blank
    {separator blank : Char}
    (blankEq : isBlank blank = true)
    (distinct : blank ≠ separator)
    (text : List Char) :
    pieces [separator] (blank :: text) = pieces [separator] text := by
  have parted :
      parts [separator] (blank :: text) =
        (parts [separator] text).modifyHead (blank :: ·) :=
    parts_cons (List.cons_ne_nil _ _) (not_singleton_isPrefix distinct text)
  rw [pieces, parted, pieces]
  cases parts [separator] text with
  | nil => rfl
  | cons first others =>
      rw [List.modifyHead_cons, List.map_cons, List.map_cons,
        simplify_congr (words_cons_blank blankEq first)]

/-- A text without separators has one piece, or none when it is blank. -/
theorem pieces_of_notMem
    {separator : Char}
    {text : List Char}
    (absent : separator ∉ text) :
    pieces [separator] text =
      [simplify text].filter fun piece => !piece.isEmpty := by
  have alone : text.splitOn separator = [text] :=
    List.splitOnP_eq_singleton fun letter member => by
      simpa using ne_of_mem_of_not_mem member absent
  rw [pieces, parts_singleton, alone]
  rfl

/-- A phrase without separators is its own piece, whatever blanks follow it. -/
theorem IsPhrase.pieces_append_blanks
    {separator : Char}
    {text blanks : List Char}
    (phrase : IsPhrase text)
    (absent : separator ∉ text)
    (only : ∀ letter ∈ blanks, isBlank letter = true)
    (visible : isBlank separator = false) :
    pieces [separator] (text ++ blanks) = [text] := by
  have apart : separator ∉ text ++ blanks := by
    intro member
    rcases List.mem_append.mp member with inside | inside
    · exact absent inside
    · exact absurd (only separator inside) (by simp [visible])
  have piece : simplify (text ++ blanks) = text :=
    (simplify_congr (words_append_blanks only)).trans phrase.simplify_eq
  rw [pieces_of_notMem apart, piece]
  simp [phrase.nonempty]

/-! ## Patterns without spaces -/

section Apart

variable
    {pattern : List Char}
    {separator : Char}
    (apart : separator ∉ pattern)

include apart

theorem isPrefixOf_append_cons (before after : List Char) :
    pattern.isPrefixOf (before ++ separator :: after) =
      pattern.isPrefixOf before := by
  induction pattern generalizing before with
  | nil => simp
  | cons first pattern induction =>
      rw [List.mem_cons, not_or] at apart
      cases before with
      | nil =>
          have distinct : (first == separator) = false :=
            beq_false_of_ne (Ne.symm apart.1)
          simp [List.isPrefixOf, distinct]
      | cons letter before =>
          rw [List.cons_append, List.isPrefixOf, List.isPrefixOf,
            induction apart.2]

variable (nonempty : pattern ≠ [])

include nonempty

theorem isPrefixOf_cons_eq_false (text : List Char) :
    pattern.isPrefixOf (separator :: text) = false := by
  cases pattern with
  | nil => exact (nonempty rfl).elim
  | cons first pattern =>
      exact isPrefixOf_append_cons apart [] text

/-- A pattern does not reach across a separator that it does not contain. -/
theorem occurs_append_cons (before after : List Char) :
    occurs pattern (before ++ separator :: after) =
      (occurs pattern before || occurs pattern after) := by
  induction before with
  | nil =>
      have missing := isPrefixOf_cons_eq_false apart nonempty after
      have blank : pattern.isEmpty = false :=
        List.isEmpty_eq_false_iff.mpr nonempty
      simp only [List.nil_append, occurs, missing, blank]
  | cons letter before induction =>
      rw [List.cons_append, occurs, ← List.cons_append,
        isPrefixOf_append_cons apart, induction, occurs, Bool.or_assoc]

/-- A text is cut after a separator when the pattern does not occur before it. -/
theorem cutAt?_append_cons
    {before : List Char}
    (free : occurs pattern before = false)
    (after : List Char) :
    cutAt? pattern (before ++ separator :: after) =
      (cutAt? pattern after).map fun cut =>
        (before ++ separator :: cut.1, cut.2) := by
  induction before with
  | nil =>
      have missing := isPrefixOf_cons_eq_false apart nonempty after
      rw [List.nil_append, cutAt?, if_neg (by simp [missing])]
      rfl
  | cons letter before induction =>
      rw [occurs, Bool.or_eq_false_iff] at free
      rw [List.cons_append, cutAt?, ← List.cons_append,
        isPrefixOf_append_cons apart, if_neg (by simp [free.1]),
        induction free.2, Option.map_map]
      rfl

end Apart

/-- A text that starts with a pattern is cut right there. -/
theorem cutAt?_append
    {pattern : List Char}
    (nonempty : pattern ≠ [])
    (rest : List Char) :
    cutAt? pattern (pattern ++ rest) = some ([], rest) := by
  cases pattern with
  | nil => exact (nonempty rfl).elim
  | cons first pattern =>
      have starts :
          (first :: pattern).isPrefixOf (first :: (pattern ++ rest)) = true := by
        simp
      rw [List.cons_append, cutAt?, if_pos starts, ← List.cons_append,
        List.drop_left]

/-! ## Patterns at a place -/

section Nonempty

variable {pattern : List Char} (nonempty : pattern ≠ [])

include nonempty

/-- Letters that a pattern does not begin with are no place for it. -/
theorem isPrefixOf_cons_of_head
    {letter : Char}
    (other : pattern.head? ≠ some letter)
    (text : List Char) :
    pattern.isPrefixOf (letter :: text) = false := by
  cases pattern with
  | nil => exact (nonempty rfl).elim
  | cons first pattern =>
      have distinct : (first == letter) = false :=
        beq_false_of_ne fun equal => other (congrArg some equal)
      rw [List.isPrefixOf, distinct, Bool.false_and]

theorem occurs_append_of_heads
    {before : List Char}
    (others : ∀ letter ∈ before, pattern.head? ≠ some letter)
    (text : List Char) :
    occurs pattern (before ++ text) = occurs pattern text := by
  induction before with
  | nil => rfl
  | cons letter before induction =>
      rw [List.forall_mem_cons] at others
      rw [List.cons_append, occurs, isPrefixOf_cons_of_head nonempty others.1,
        induction others.2, Bool.false_or]

theorem occurs_append_append (before after : List Char) :
    occurs pattern (before ++ (pattern ++ after)) = true := by
  induction before with
  | nil =>
      cases pattern with
      | nil => exact (nonempty rfl).elim
      | cons first pattern => simp [occurs]
  | cons letter before induction =>
      rw [List.cons_append, occurs, induction, Bool.or_true]

/-! ## Erasing -/

theorem erase_nil : erase pattern [] = [] := by
  rw [erase, parts_nil nonempty]
  rfl

theorem erase_cons
    {letter : Char}
    {text : List Char}
    (elsewhere : ¬ pattern <+: letter :: text) :
    erase pattern (letter :: text) = letter :: erase pattern text := by
  rcases List.exists_cons_of_ne_nil (parts_ne_nil nonempty text) with
    ⟨part, others, partsEq⟩
  rw [erase, parts_cons nonempty elsewhere, erase, partsEq]
  rfl

theorem erase_append_of_heads
    {before : List Char}
    (others : ∀ letter ∈ before, pattern.head? ≠ some letter)
    (text : List Char) :
    erase pattern (before ++ text) = before ++ erase pattern text := by
  induction before with
  | nil => rfl
  | cons letter before induction =>
      rw [List.forall_mem_cons] at others
      have elsewhere : ¬ pattern <+: letter :: (before ++ text) := by
        rw [← List.isPrefixOf_iff_prefix, isPrefixOf_cons_of_head nonempty others.1]
        exact Bool.false_ne_true
      rw [List.cons_append, List.cons_append, ← induction others.2,
        erase_cons nonempty elsewhere]

/-- A pattern that a text begins with is erased. -/
theorem erase_append_self (text : List Char) :
    erase pattern (pattern ++ text) = erase pattern text := by
  rw [erase, parts_append_self nonempty, List.flatten_cons, List.nil_append, erase]

end Nonempty

end SurfaceKinetics
