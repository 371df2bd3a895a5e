import SurfaceKinetics.Proofs.Input.Renumbering
import SurfaceKinetics.Proofs.Text.Spacing

/-!
# The layout of an input

Of the lines of a source only the significant ones count, and of these only the text
without comments and needless blanks.  Its canonical text has nothing else: it has the
significant lines one behind the other.  They are its significant lines, numbered from
one, and it says what the source says, up to the numbers of lines in errors.
-/

namespace SurfaceKinetics

/-! ## The lines of a text -/

/-- A line without the carriage return that belongs to its end. -/
def withoutReturn (line : List Char) : List Char :=
  if line.getLast? = some '\r' then line.dropLast else line

/--
The lines of a text.  A line ends with a line feed, before which there may be a
carriage return; what follows the last line feed is a line unless it is empty.
-/
def textLines (text : List Char) : List (List Char) :=
  (text.splitOn '\n').dropLast.map withoutReturn ++
    (text.splitOn '\n').getLast?.toList.filter fun line => !line.isEmpty

theorem significantText_append_blank
    {blank : Char}
    (blankEq : isBlank blank = true)
    (line : List Char) :
    significantText (line ++ [blank]) = significantText line := by
  have only : ∀ letter ∈ [blank], isBlank letter = true :=
    List.forall_mem_singleton.mpr blankEq
  rw [significantText, withoutComment, List.takeWhile_append]
  split
  · next whole =>
      have uncommented : line.takeWhile (· != commentMark) = line :=
        (List.takeWhile_prefix _).eq_of_length whole
      have visible : [blank].takeWhile (· != commentMark) = [blank] := by
        apply List.takeWhile_eq_self_iff.mpr
        intro letter member
        apply bne_iff_ne.mpr
        rintro rfl
        cases only commentMark member
      rw [visible, significantText, withoutComment, uncommented]
      exact simplify_congr (words_append_blanks only)
  · rfl

theorem significantText_withoutReturn (line : List Char) :
    significantText (withoutReturn line) = significantText line := by
  rw [withoutReturn]
  split
  · next ends =>
      rcases List.getLast?_eq_some_iff.mp ends with ⟨start, rfl⟩
      rw [List.dropLast_concat, significantText_append_blank rfl]
  · rfl

/-! ## Significant lines -/

/-- Texts as lines that are numbered from a given number on. -/
def numbered (number : Nat) (texts : List (List Char)) : List Line :=
  (texts.zipIdx number).map fun entry => ⟨entry.2, entry.1⟩

theorem map_text_numbered (number : Nat) (texts : List (List Char)) :
    (numbered number texts).map Line.text = texts := by
  rw [numbered, List.map_map]
  exact List.zipIdx_map_fst number texts

theorem map_number_numbered (number : Nat) (texts : List (List Char)) :
    (numbered number texts).map Line.number =
      List.range' number texts.length := by
  rw [numbered, List.map_map]
  exact List.zipIdx_map_snd number texts

theorem mem_numbered_iff (number : Nat) (texts : List (List Char)) (line : Line) :
    line ∈ numbered number texts ↔
      number ≤ line.number ∧ texts[line.number - number]? = some line.text := by
  rw [← List.mk_mem_zipIdx_iff_le_and_getElem?_sub, numbered, List.mem_map]
  constructor
  · rintro ⟨entry, member, rfl⟩
    exact member
  · intro member
    exact ⟨(line.text, line.number), member, rfl⟩

/-- Significant lines are the lines that keep a text, under their own numbers. -/
theorem significantFrom_eq (number : Nat) (texts : List (List Char)) :
    significantFrom number texts =
      (numbered number (texts.map significantText)).filter fun line =>
        !line.text.isEmpty := by
  induction texts generalizing number with
  | nil => rfl
  | cons text texts induction =>
      have rest :
          numbered number ((text :: texts).map significantText) =
            ⟨number, significantText text⟩ ::
              numbered (number + 1) (texts.map significantText) := by
        rw [List.map_cons, numbered, List.zipIdx_cons, List.map_cons]
        rfl
      rw [significantFrom, rest, induction]
      split
      · next empty => exact (List.filter_cons_of_neg (by simpa using empty)).symm
      · next kept => exact (List.filter_cons_of_pos (by simpa using kept)).symm

/-- Lines with the same significant texts have the same significant lines. -/
theorem significantFrom_congr
    {texts others : List (List Char)}
    (same : texts.map significantText = others.map significantText)
    (number : Nat) :
    significantFrom number texts = significantFrom number others := by
  rw [significantFrom_eq, same, ← significantFrom_eq]

/-- Texts that nothing is to be taken from are all kept. -/
theorem significantFrom_of_fixed
    {texts : List (List Char)}
    (fixed : ∀ text ∈ texts, significantText text = text ∧ text ≠ [])
    (number : Nat) :
    significantFrom number texts = numbered number texts := by
  have same : texts.map significantText = texts :=
    (List.map_congr_left fun text member => (fixed text member).1).trans
      texts.map_id
  rw [significantFrom_eq, same, List.filter_eq_self]
  intro line member
  have inside : line.text ∈ texts :=
    List.mem_of_getElem? ((mem_numbered_iff _ _ _).mp member).2
  simpa using (fixed line.text inside).2

theorem significantFrom_concat_nil (number : Nat) (texts : List (List Char)) :
    significantFrom number (texts ++ [[]]) = significantFrom number texts := by
  rw [significantFrom_eq, significantFrom_eq, List.map_append, numbered,
    List.zipIdx_append, List.map_append, List.filter_append]
  exact List.append_nil _

/-- The significant lines are those of the lines that the text has. -/
theorem significantLines_eq (source : String) :
    significantLines source = significantFrom 1 (textLines source.toList) := by
  rcases List.eq_nil_or_concat' (source.toList.splitOn '\n') with
    none | ⟨ended, last, partsEq⟩
  · exact (List.splitOn_ne_nil _ _ none).elim
  · have same :
        (ended.map withoutReturn).map significantText =
          ended.map significantText := by
      rw [List.map_map]
      exact List.map_congr_left fun line _ => significantText_withoutReturn line
    rw [significantLines, textLines, partsEq, List.dropLast_concat,
      List.getLast?_concat]
    cases last with
    | nil =>
        rw [significantFrom_concat_nil]
        apply significantFrom_congr
        rw [List.map_append, same]
        exact (List.append_nil _).symm
    | cons letter last =>
        apply significantFrom_congr
        rw [List.map_append, List.map_append, same]
        rfl

theorem mem_significantLines_iff (source : String) (line : Line) :
    line ∈ significantLines source ↔
      line.text ≠ [] ∧
        1 ≤ line.number ∧
          ∃ raw,
            (textLines source.toList)[line.number - 1]? = some raw ∧
              line.text = significantText raw := by
  rw [significantLines_eq, significantFrom_eq, List.mem_filter, mem_numbered_iff,
    List.getElem?_map, Option.map_eq_some_iff]
  constructor
  · rintro ⟨⟨after, raw, found, textEq⟩, kept⟩
    exact ⟨by simpa using kept, after, raw, found, textEq.symm⟩
  · rintro ⟨nonempty, after, raw, found, textEq⟩
    exact ⟨⟨after, raw, found, textEq.symm⟩, by simpa using nonempty⟩

/-! ## The canonical text -/

/-- The significant texts of a source, one on each line. -/
def canonicalText (source : String) : String :=
  String.ofList
    (['\n'].intercalate ((significantLines source).map Line.text))

/-- What is left of the lines of a source is left as it is. -/
theorem significantText_fixed (source : String) :
    ∀ text ∈ (significantLines source).map Line.text,
      significantText text = text ∧ text ≠ [] := by
  intro text member
  rcases List.mem_map.mp member with ⟨line, lineMember, rfl⟩
  rcases (mem_significantLines_iff source line).mp lineMember with
    ⟨nonempty, _, raw, _, textEq⟩
  refine ⟨?_, nonempty⟩
  rw [textEq, significantText_significantText]

theorem significantLines_canonicalText (source : String) :
    significantLines (canonicalText source) =
      numbered 1 ((significantLines source).map Line.text) := by
  have fixed := significantText_fixed source
  rw [significantLines, canonicalText, String.toList_ofList]
  generalize (significantLines source).map Line.text = texts at fixed
  cases texts with
  | nil => rfl
  | cons text texts =>
      have apart : ∀ line ∈ text :: texts, '\n' ∉ line := by
        intro line member
        rw [← (fixed line member).1]
        exact newline_notMem_significantText line
      rw [List.splitOn_intercalate '\n' apart (List.cons_ne_nil _ _),
        significantFrom_of_fixed fixed]

/-! ## Places among lines -/

/-- How many of some lines have at most a given number. -/
def placeIn (lines : List Line) (number : Nat) : Nat :=
  lines.countP fun line => line.number ≤ number

theorem numbered_succ (number : Nat) (texts : List (List Char)) :
    numbered (number + 1) texts =
      (numbered number texts).map (Line.renumber (· + 1)) := by
  rw [numbered, List.zipIdx_succ, numbered, List.map_map, List.map_map]
  rfl

/-- Lines in the order of their numbers are numbered by their places. -/
theorem renumber_placeIn
    {lines : List Line}
    (increasing : lines.Pairwise (·.number < ·.number)) :
    lines.map (Line.renumber (placeIn lines)) =
      numbered 1 (lines.map Line.text) := by
  induction lines with
  | nil => rfl
  | cons first rest induction =>
      rcases List.pairwise_cons.mp increasing with ⟨behind, others⟩
      have firstPlace : placeIn (first :: rest) first.number = 1 := by
        have none : placeIn rest first.number = 0 := by
          apply List.countP_eq_zero.mpr
          intro line member
          simpa using behind line member
        rw [placeIn, List.countP_cons_of_pos (by simp)]
        exact congrArg (· + 1) none
      have restPlace :
          rest.map (Line.renumber (placeIn (first :: rest))) =
            (rest.map (Line.renumber (placeIn rest))).map
              (Line.renumber (· + 1)) := by
        rw [List.map_map]
        apply List.map_congr_left
        intro line member
        have before : first.number ≤ line.number :=
          Nat.le_of_lt (behind line member)
        have placeEq :
            placeIn (first :: rest) line.number =
              placeIn rest line.number + 1 :=
          List.countP_cons_of_pos (by simpa using before)
        exact congrArg (Line.mk · line.text) placeEq
      rw [List.map_cons, restPlace, induction others, ← numbered_succ,
        Line.renumber, firstPlace]
      rfl

/--
Of a source only the significant lines count, each the text without comments and
needless blanks of the source line with its number.  With these texts alone, one on
each line, they are numbered from one, and what is read from them is the same, up to
the numbers of lines in errors.
-/
theorem layout_irrelevant
    {α : Type}
    [Quantity α]
    (source : String) :
    (∀ line,
      line ∈ significantLines source ↔
        line.text ≠ [] ∧
          1 ≤ line.number ∧
            ∃ raw,
              (textLines source.toList)[line.number - 1]? = some raw ∧
                line.text = simplify (withoutComment raw)) ∧
      (∀ line ∈ significantLines source,
        commentMark ∉ line.text ∧ IsSpaced line.text) ∧
        (significantLines source).Pairwise (·.number < ·.number) ∧
          (significantLines (canonicalText source)).map Line.text =
              (significantLines source).map Line.text ∧
            (significantLines (canonicalText source)).map Line.number =
                List.range' 1 (significantLines source).length ∧
              (SimulationInput.read (α := α) (canonicalText source)).value =
                renumbered (placeIn (significantLines source))
                  (SimulationInput.renumber
                    (placeIn (significantLines source)))
                  (SimulationInput.read source).value := by
  have canonical := significantLines_canonicalText source
  have increasing := significantLines_increasing source
  refine
    ⟨mem_significantLines_iff source, ?_, increasing, ?_, ?_, ?_⟩
  · intro line member
    rcases (mem_significantLines_iff source line).mp member with
      ⟨nonempty, _, raw, _, textEq⟩
    rw [textEq] at nonempty ⊢
    exact
      ⟨commentMark_notMem_significantText raw, isSpaced_simplify nonempty⟩
  · rw [canonical, map_text_numbered]
  · rw [canonical, map_number_numbered, List.length_map]
  · rw [SimulationInput.value_read, SimulationInput.value_read, canonical,
      ← renumber_placeIn increasing, SimulationInput.readLines_renumber]

/-- Lines that end in two ways, with comments and more blanks than needed. -/
def scatteredText : String :=
  "# a species\r\n\r\n" ++
    "nspecies\t2 # and another\r\n" ++
    "  A   12.0\n\n" ++
    "A 13.0\r\n" ++
    "temperature 500"

theorem layout_irrelevant_scattered :
    canonicalText scatteredText =
        "nspecies 2\nA 12.0\nA 13.0\ntemperature 500" ∧
      ∃ input other : SimulationInput Float,
        (SimulationInput.read scatteredText).value = .ok input ∧
          (SimulationInput.read (canonicalText scatteredText)).value = .ok other ∧
            input.registry = other.registry ∧
              input.temperature = other.temperature ∧
                input.warnings.map InputError.line? = [some 6] ∧
                  other.warnings.map InputError.line? = [some 3] := by
  have ahead :
      ((Draft.compiled?
            (SimulationInput.read (α := Float) scatteredText).value).any
        fun input =>
          input.warnings.map InputError.line? = [some 6] &&
            (input.renumber (placeIn (significantLines scatteredText))).warnings.map
                InputError.line? =
              [some 3]) = true := by
    decide +kernel
  rcases (Option.any_eq_true _ _).mp ahead with ⟨input, found, checked⟩
  simp only [Bool.and_eq_true, decide_eq_true_eq] at checked
  have read := Draft.compiled?_eq_some_iff.mp found
  rcases layout_irrelevant (α := Float) scatteredText with
    ⟨_, _, _, _, _, canonical⟩
  rw [read] at canonical
  exact
    ⟨by decide +kernel, input, _, read, canonical, rfl, rfl, checked.1,
      checked.2⟩

end SurfaceKinetics
