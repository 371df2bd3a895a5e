import Mathlib.Data.List.Infix
import Mathlib.Data.String.Basic
import SurfaceKinetics.Proofs.Text.Occurrences

/-!
# Erasing a pattern

The occurrences of a pattern are erased from left to right, and what stands between
them is joined.  None of the parts between them has the pattern in it, so the pattern
stands in the joined text only across a place where parts meet, which had an erased
occurrence between them.

Whether that can happen is a matter of the pattern alone.  When all its letters are the
same, it never does.  Every other pattern stands across the place where it was erased
from between its own first letter and its others.
-/

namespace SurfaceKinetics

section Scanning

variable {pattern : List Char} (nonempty : pattern ≠ [])

include nonempty

/-! ## Scanning a text -/

/--
A property of texts holds when it holds of the empty one, and is kept both by a letter
that the pattern does not start at and by an occurrence of the pattern.
-/
@[elab_as_elim]
theorem scanning_induction
    {motive : List Char → Prop}
    (text : List Char)
    (ended : motive [])
    (passed :
      ∀ letter text,
        ¬ pattern <+: letter :: text → motive text → motive (letter :: text))
    (skipped : ∀ text, motive text → motive (pattern ++ text)) :
    motive text := by
  induction scanned : text.length using Nat.strong_induction_on generalizing text with
  | _ length induction =>
      subst scanned
      by_cases starts : pattern <+: text
      · rcases starts with ⟨rest, rfl⟩
        have patternPos := List.length_pos_of_ne_nil nonempty
        have shorter : rest.length < (pattern ++ rest).length := by
          rw [List.length_append]
          omega
        exact skipped rest (induction rest.length shorter rest rfl)
      · cases text with
        | nil => exact ended
        | cons letter text =>
            exact
              passed letter text starts
                (induction text.length (Nat.lt_succ_self _) text rfl)

/-! ## The parts of a text -/

/-- The parts of a text with the pattern between them are the text. -/
theorem intercalate_parts (text : List Char) :
    pattern.intercalate (parts pattern text) = text := by
  induction text using scanning_induction nonempty with
  | ended =>
      rw [parts_nil nonempty, List.intercalate_singleton]
  | passed letter text elsewhere induction =>
      rw [parts_cons nonempty elsewhere]
      rcases List.exists_cons_of_ne_nil (parts_ne_nil nonempty text) with
        ⟨part, others, partsEq⟩
      rw [partsEq] at induction ⊢
      rw [List.modifyHead_cons, ← induction]
      cases others with
      | nil => rw [List.intercalate_singleton, List.intercalate_singleton]
      | cons other others =>
          rw [List.intercalate_cons_cons, List.intercalate_cons_cons,
            List.cons_append, List.cons_append]
  | skipped text induction =>
      rw [parts_append_self nonempty,
        List.intercalate_cons_of_ne_nil (parts_ne_nil nonempty text), induction,
        List.nil_append]

theorem isPrefix_of_parts_eq_cons
    {text part : List Char}
    {others : List (List Char)}
    (partsEq : parts pattern text = part :: others) :
    part <+: text := by
  rw [← intercalate_parts nonempty text, partsEq]
  cases others with
  | nil => rw [List.intercalate_singleton]
  | cons other others =>
      rw [List.intercalate_cons_cons, List.append_assoc]
      exact List.prefix_append _ _

/-- No part of a text has the pattern in it. -/
theorem not_isInfix_of_mem_parts (text : List Char) :
    ∀ part ∈ parts pattern text, ¬ pattern <:+: part := by
  induction text using scanning_induction nonempty with
  | ended =>
      rw [parts_nil nonempty, List.forall_mem_singleton, List.infix_nil]
      exact nonempty
  | passed letter text elsewhere induction =>
      rw [parts_cons nonempty elsewhere]
      rcases List.exists_cons_of_ne_nil (parts_ne_nil nonempty text) with
        ⟨part, others, partsEq⟩
      rw [partsEq, List.forall_mem_cons] at induction
      rw [partsEq, List.modifyHead_cons, List.forall_mem_cons, List.infix_cons_iff]
      refine ⟨?_, induction.2⟩
      rintro (starts | inside)
      · have longer : letter :: part <+: letter :: text :=
          List.cons_prefix_cons.mpr
            ⟨rfl, isPrefix_of_parts_eq_cons nonempty partsEq⟩
        exact elsewhere (starts.trans longer)
      · exact induction.1 inside
  | skipped text induction =>
      rw [parts_append_self nonempty, List.forall_mem_cons, List.infix_nil]
      exact ⟨nonempty, induction⟩

theorem parts_of_not_isInfix
    {text : List Char}
    (absent : ¬ pattern <:+: text) :
    parts pattern text = [text] := by
  rcases List.exists_cons_of_ne_nil (parts_ne_nil nonempty text) with
    ⟨part, others, partsEq⟩
  have whole := intercalate_parts nonempty text
  rw [partsEq] at whole ⊢
  cases others with
  | nil =>
      rw [List.intercalate_singleton] at whole
      rw [whole]
  | cons other others =>
      rw [List.intercalate_cons_cons] at whole
      exact (absent ⟨part, _, whole⟩).elim

/-- Nothing is erased from a text without the pattern. -/
theorem erase_of_not_isInfix
    {text : List Char}
    (absent : ¬ pattern <:+: text) :
    erase pattern text = text := by
  rw [erase, parts_of_not_isInfix nonempty absent, List.flatten_singleton]

/-- A text with the pattern in it has parts before and behind it. -/
theorem two_le_length_parts
    {text : List Char}
    (present : pattern <:+: text) :
    2 ≤ (parts pattern text).length := by
  rcases List.exists_cons_of_ne_nil (parts_ne_nil nonempty text) with
    ⟨part, others, partsEq⟩
  cases others with
  | cons other others =>
      rw [partsEq, List.length_cons, List.length_cons]
      omega
  | nil =>
      have whole := intercalate_parts nonempty text
      have free := not_isInfix_of_mem_parts nonempty text
      rw [partsEq, List.intercalate_singleton] at whole
      rw [partsEq, List.forall_mem_singleton, whole] at free
      exact (free present).elim

/-! ## Lengths -/

omit nonempty in
theorem utf8Len_intercalate
    (pattern : List Char)
    {parts : List (List Char)}
    (partsNeNil : parts ≠ []) :
    String.utf8Len (pattern.intercalate parts) + String.utf8Len pattern =
      String.utf8Len parts.flatten + parts.length * String.utf8Len pattern := by
  induction parts with
  | nil => exact (partsNeNil rfl).elim
  | cons part parts induction =>
      cases parts with
      | nil =>
          rw [List.intercalate_singleton, List.flatten_singleton,
            List.length_singleton, Nat.one_mul]
      | cons other others =>
          have joined := induction (List.cons_ne_nil _ _)
          rw [List.intercalate_cons_cons, List.flatten_cons, List.length_cons,
            Nat.succ_mul, String.utf8Len_append, String.utf8Len_append,
            String.utf8Len_append]
          omega

theorem utf8Len_pos : 0 < String.utf8Len pattern := by
  cases pattern with
  | nil => exact (nonempty rfl).elim
  | cons first pattern =>
      rw [String.utf8Len_cons]
      exact Nat.add_pos_right _ (Char.utf8Size_pos first)

/-- Erasing a pattern that is in a text shortens the text. -/
theorem utf8Len_erase_lt
    {text : List Char}
    (present : pattern <:+: text) :
    String.utf8Len (erase pattern text) < String.utf8Len text := by
  have lengths := utf8Len_intercalate pattern (parts_ne_nil nonempty text)
  have twice :=
    Nat.mul_le_mul_right (String.utf8Len pattern) (two_le_length_parts nonempty present)
  have patternPos := utf8Len_pos nonempty
  rw [intercalate_parts nonempty] at lengths
  rw [erase]
  omega

/-! ## Occurrences across parts -/

/--
A pattern stands across a place where parts of a text meet, with its beginning before
the place and its end behind it.
-/
def StandsAcross (pattern : List Char) (parts : List (List Char)) : Prop :=
  ∃ before after start rest,
    before ++ after = parts ∧
      start ++ rest = pattern ∧
        start ≠ [] ∧ rest ≠ [] ∧ start <:+ before.flatten ∧ rest <+: after.flatten

omit nonempty in
theorem StandsAcross.isInfix
    {parts : List (List Char)}
    (across : StandsAcross pattern parts) :
    pattern <:+: parts.flatten := by
  rcases across with
    ⟨before, after, start, rest, rfl, rfl, _, _, ⟨left, leftEq⟩, ⟨right, rightEq⟩⟩
  refine ⟨left, right, ?_⟩
  rw [List.flatten_append, ← leftEq, ← rightEq]
  simp only [List.append_assoc]

omit nonempty in
theorem StandsAcross.cons
    {parts : List (List Char)}
    (across : StandsAcross pattern parts)
    (part : List Char) :
    StandsAcross pattern (part :: parts) := by
  rcases across with
    ⟨before, after, start, rest, rfl, rfl, startNeNil, restNeNil, ends, begins⟩
  refine
    ⟨part :: before, after, start, rest, rfl, rfl, startNeNil, restNeNil, ?_, begins⟩
  rw [List.flatten_cons]
  exact ends.trans (List.suffix_append part before.flatten)

/-- Parts without the pattern have it between them only where they meet. -/
theorem isInfix_flatten_iff
    {parts : List (List Char)}
    (free : ∀ part ∈ parts, ¬ pattern <:+: part) :
    pattern <:+: parts.flatten ↔ StandsAcross pattern parts := by
  refine ⟨fun inside => ?_, StandsAcross.isInfix⟩
  induction parts with
  | nil =>
      rw [List.flatten_nil, List.infix_nil] at inside
      exact (nonempty inside).elim
  | cons part parts induction =>
      rw [List.forall_mem_cons] at free
      rw [List.flatten_cons, List.infix_append_iff] at inside
      rcases inside with within | later | ⟨start, rest, patternEq, ends, begins⟩
      · exact (free.1 within).elim
      · exact (induction free.2 later).cons part
      · rcases eq_or_ne start [] with rfl | startNeNil
        · rw [List.nil_append] at patternEq
          rw [← patternEq] at begins
          exact (induction free.2 begins.isInfix).cons part
        · rcases eq_or_ne rest [] with rfl | restNeNil
          · rw [List.append_nil] at patternEq
            rw [← patternEq] at ends
            exact (free.1 ends.isInfix).elim
          · refine
              ⟨[part], parts, start, rest, rfl, patternEq.symm, startNeNil,
                restNeNil, ?_, begins⟩
            rwa [List.flatten_singleton]

/-- What is left of a text has the pattern in it only where parts of the text meet. -/
theorem isInfix_erase_iff (text : List Char) :
    pattern <:+: erase pattern text ↔ StandsAcross pattern (parts pattern text) :=
  isInfix_flatten_iff nonempty (not_isInfix_of_mem_parts nonempty text)

/-! ## Patterns that come back -/

omit nonempty in
/-- Of texts of one letter the shorter begins the longer. -/
theorem isPrefix_of_uniform
    {letter : Char}
    {shorter longer : List Char}
    (shorterEq : ∀ other ∈ shorter, other = letter)
    (longerEq : ∀ other ∈ longer, other = letter)
    (lengthLe : shorter.length ≤ longer.length) :
    shorter <+: longer := by
  rw [List.eq_replicate_iff.mpr ⟨rfl, longerEq⟩, List.prefix_replicate_iff]
  exact ⟨lengthLe, List.eq_replicate_iff.mpr ⟨rfl, shorterEq⟩⟩

/-- Where all letters of a pattern are the same, erasing brings no part of it forward. -/
theorem isPrefix_of_isPrefix_erase
    {letter : Char}
    (uniform : ∀ other ∈ pattern, other = letter)
    {start : List Char}
    (fits : start <+: pattern)
    {text : List Char}
    (begins : start <+: erase pattern text) :
    start <+: text := by
  induction text using scanning_induction nonempty generalizing start with
  | ended => rwa [erase_nil nonempty] at begins
  | passed first text elsewhere induction =>
      rw [erase_cons nonempty elsewhere] at begins
      cases start with
      | nil => exact List.nil_prefix
      | cons other start =>
          rw [List.cons_prefix_cons] at begins ⊢
          have startEq : ∀ third ∈ start, third = letter := fun third member =>
            uniform third (fits.subset (List.mem_cons_of_mem other member))
          have fitsToo : start <+: pattern :=
            isPrefix_of_uniform startEq uniform (Nat.le_of_succ_le fits.length_le)
          exact ⟨begins.1, induction fitsToo begins.2⟩
  | skipped text induction => exact fits.trans (List.prefix_append pattern text)

theorem not_isInfix_erase_of_uniform
    {letter : Char}
    (uniform : ∀ other ∈ pattern, other = letter)
    (text : List Char) :
    ¬ pattern <:+: erase pattern text := by
  induction text using scanning_induction nonempty with
  | ended =>
      rw [erase_nil nonempty, List.infix_nil]
      exact nonempty
  | passed first text elsewhere induction =>
      rw [erase_cons nonempty elsewhere, List.infix_cons_iff, not_or]
      refine ⟨fun starts => elsewhere ?_, induction⟩
      cases pattern with
      | nil => exact (nonempty rfl).elim
      | cons other rest =>
          rw [List.cons_prefix_cons] at starts ⊢
          have fits : rest <+: other :: rest :=
            isPrefix_of_uniform (List.forall_mem_cons.mp uniform).2 uniform
              (Nat.le_succ rest.length)
          exact
            ⟨starts.1, isPrefix_of_isPrefix_erase nonempty uniform fits starts.2⟩
  | skipped text induction => rwa [erase_append_self nonempty]

omit nonempty in
theorem eq_of_isPrefix_cons
    {letter : Char}
    {letters : List Char}
    (begins : letters <+: letter :: letters) :
    ∀ other ∈ letters, other = letter := by
  induction letters generalizing letter with
  | nil => exact List.forall_mem_nil _
  | cons first letters induction =>
      rw [List.cons_prefix_cons] at begins
      rcases begins with ⟨rfl, begins⟩
      exact List.forall_mem_cons.mpr ⟨rfl, induction begins⟩

omit nonempty in
/--
A pattern with different letters, put between its first letter and its others, comes back
when it is erased.
-/
theorem erase_within
    {first : Char}
    {others : List Char}
    (mixed : ¬ ∀ other ∈ others, other = first) :
    erase (first :: others) (first :: (first :: others ++ others)) = first :: others := by
  have nonempty : first :: others ≠ [] := List.cons_ne_nil first others
  have elsewhere : ¬ first :: others <+: first :: (first :: others ++ others) := by
    intro starts
    rw [List.cons_prefix_cons] at starts
    have begins : others <+: first :: others :=
      List.prefix_of_prefix_length_le starts.2
        (List.prefix_append (first :: others) others) (Nat.le_succ _)
    exact mixed (eq_of_isPrefix_cons begins)
  have absent : ¬ first :: others <:+: others := fun inside =>
    absurd inside.length_le (by simp)
  rw [erase_cons nonempty elsewhere, erase_append_self nonempty,
    erase_of_not_isInfix nonempty absent]

/-- Only patterns of one letter are gone from every text that they are erased from. -/
theorem forall_not_isInfix_erase_iff :
    (∀ text, ¬ pattern <:+: erase pattern text) ↔
      ∃ letter, ∀ other ∈ pattern, other = letter := by
  constructor
  · intro gone
    cases pattern with
    | nil => exact (nonempty rfl).elim
    | cons first others =>
        refine ⟨first, List.forall_mem_cons.mpr ⟨rfl, ?_⟩⟩
        by_contra mixed
        exact
          gone (first :: (first :: others ++ others))
            (by rw [erase_within mixed])
  · rintro ⟨letter, uniform⟩
    exact not_isInfix_erase_of_uniform nonempty uniform

end Scanning

end SurfaceKinetics
