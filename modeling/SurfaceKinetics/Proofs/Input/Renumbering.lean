import SurfaceKinetics.Proofs.Input.Accounting

/-!
# Numbers of lines

The number of a line is carried from the line to the errors that are found in it and
is used for nothing else.  So lines with other numbers are read in the same way, and
only the locations of errors differ.
-/

namespace SurfaceKinetics

variable
    {α : Type}
    (place : Nat → Nat)

/-! ## New numbers -/

/-- The line under another number. -/
def Line.renumber (line : Line) : Line :=
  { line with number := place line.number }

/-- The segment with its lines under other numbers. -/
def Segment.renumber (segment : Segment) : Segment where
  header := segment.header.renumber place
  body := segment.body.map (Line.renumber place)
  following := segment.following

/-- The error with its location under another number. -/
def InputError.renumber : InputError α → InputError α
  | atLine number cause => .atLine (place number) cause
  | error => error

/-- The directive with the lines of its block under other numbers. -/
def Directive.renumber : Directive α → Directive α
  | species body => .species (body.map (Line.renumber place))
  | processes body => .processes (body.map (Line.renumber place))
  | directive => directive

/-- The input with the locations of its warnings under other numbers. -/
def SimulationInput.renumber (input : SimulationInput α) : SimulationInput α :=
  { input with warnings := input.warnings.map (InputError.renumber place) }

/-- The draft with all its lines under other numbers. -/
def Draft.renumber (draft : Draft α) : Draft α where
  input := draft.input.renumber place
  steps := draft.steps
  processLines := draft.processLines.map (Line.renumber place)

/-- The outcome of a reading with its error under another number. -/
def renumbered
    {β : Type}
    (move : β → β) :
    Except (InputError α) β → Except (InputError α) β
  | .ok value => .ok (move value)
  | .error error => .error (error.renumber place)

/-! ## Segments -/

namespace Segment

theorem bodyLength_renumber (header : Line) (following : Nat) :
    bodyLength (header.renumber place) following = bodyLength header following :=
  rfl

/-- Lines fall into segments in the same way under other numbers. -/
theorem ofLines_renumber (lines : List Line) :
    ofLines (lines.map (Line.renumber place)) =
      (ofLines lines).map (renumber place) := by
  fun_induction ofLines lines with
  | case1 => rw [List.map_nil, ofLines, List.map_nil]
  | case2 header rest length induction =>
      rw [List.map_cons, ofLines, List.map_cons, bodyLength_renumber,
        List.length_map, ← List.map_take, ← List.map_drop, induction]
      rfl

end Segment

namespace Directive

theorem blockOf_renumber (keyword : Keyword) (segment : Segment) :
    blockOf (α := α) keyword (segment.renumber place) =
      (blockOf keyword segment).map (List.map (Line.renumber place)) := by
  have announcedEq :
      Segment.announced? (segment.renumber place).header =
        Segment.announced? segment.header :=
    rfl
  have followingEq : (segment.renumber place).following = segment.following :=
    rfl
  rw [blockOf, blockOf, announcedEq, followingEq]
  cases Segment.announced? segment.header with
  | none => rfl
  | some count =>
      dsimp only
      split <;> rfl

/-- A directive without lines is the same under other numbers. -/
theorem map_eq_map_renumber
    {β : Type}
    {make : β → Directive α}
    (same : ∀ value, (make value).renumber place = make value)
    (outcome : Except (InputError α) β) :
    make <$> outcome = (make <$> outcome).map (renumber place) := by
  cases outcome with
  | error error => rfl
  | ok value => exact congrArg Except.ok (same value).symm

/-- A directive of a block has the lines of the block under other numbers. -/
theorem map_blockOf_renumber
    {make : List Line → Directive α}
    (same :
      ∀ body,
        (make body).renumber place = make (body.map (Line.renumber place)))
    (keyword : Keyword)
    (segment : Segment) :
    make <$> blockOf (α := α) keyword (segment.renumber place) =
      (make <$> blockOf keyword segment).map (renumber place) := by
  rw [blockOf_renumber]
  cases blockOf (α := α) keyword segment with
  | error error => rfl
  | ok body => exact congrArg Except.ok (same body).symm

theorem ofSegment_renumber [Quantity α] (segment : Segment) :
    ofSegment (α := α) (segment.renumber place) =
      (ofSegment segment).map (renumber place) := by
  have keywordEq :
      Segment.keyword? (segment.renumber place).header =
        Segment.keyword? segment.header :=
    rfl
  rw [ofSegment, ofSegment, keywordEq]
  cases Segment.keyword? segment.header with
  | none => rfl
  | some keyword =>
      cases keyword with
      | species => exact map_blockOf_renumber place (fun _ => rfl) _ _
      | processes => exact map_blockOf_renumber place (fun _ => rfl) _ _
      | _ => exact map_eq_map_renumber place (fun _ => rfl) _

end Directive

/-! ## Drafts -/

namespace Draft

variable
    [Quantity α]
    (draft : Draft α)

theorem recover_renumber (error : InputError α) :
    ((draft.renumber place).recover (error.renumber place)).value =
      (draft.recover error).value.renumber place := by
  simp [recover, renumber, SimulationInput.renumber]

theorem readSpecies_renumber (line : Line) :
    ((draft.renumber place).readSpecies (line.renumber place)).value =
      (draft.readSpecies line).value.renumber place := by
  have declareEq :
      declare (draft.renumber place).input.registry (line.renumber place) =
        declare draft.input.registry line :=
    rfl
  rw [readSpecies, readSpecies, declareEq]
  cases declare draft.input.registry line with
  | ok registry => rfl
  | error error => exact draft.recover_renumber place (.atLine line.number error)

theorem foldlM_readSpecies_renumber (body : List Line) :
    ((body.map (Line.renumber place)).foldlM readSpecies
        (draft.renumber place)).value =
      (body.foldlM readSpecies draft).value.renumber place := by
  induction body generalizing draft with
  | nil => rfl
  | cons line body induction =>
      rw [List.map_cons, List.foldlM_cons, List.foldlM_cons, Noted.value_bind,
        Noted.value_bind, readSpecies_renumber, induction]

theorem apply_renumber (number : Nat) (directive : Directive α) :
    ((draft.renumber place).apply (place number)
        (directive.renumber place)).value =
      (draft.apply number directive).value.renumber place := by
  cases directive with
  | species body => exact draft.foldlM_readSpecies_renumber place body
  | processes body =>
      simp [Directive.renumber, apply, renumber]
  | _ => rfl

theorem readSegment_renumber (segment : Segment) :
    ((draft.renumber place).readSegment (segment.renumber place)).value =
      renumbered place (renumber place) (draft.readSegment segment).value := by
  rw [readSegment_eq, readSegment_eq, Directive.ofSegment_renumber]
  cases Directive.ofSegment (α := α) segment with
  | ok directive =>
      exact
        congrArg Except.ok
          (draft.apply_renumber place segment.header.number directive)
  | error error =>
      unfold takeBySeverity
      dsimp only [Except.map]
      split
      · rfl
      · exact
          congrArg Except.ok
            (draft.recover_renumber place (.atLine segment.header.number error))

theorem readSegments_renumber (segments : List Segment) :
    (readSegments (segments.map (Segment.renumber place))
        (draft.renumber place)).value =
      renumbered place (renumber place) (readSegments segments draft).value := by
  induction segments generalizing draft with
  | nil => rfl
  | cons segment segments induction =>
      rw [List.map_cons, readSegments, readSegments, Noted.value_bind,
        Noted.value_bind, readSegment_renumber]
      cases (draft.readSegment segment).value with
      | error error => rfl
      | ok next => exact induction next

/-! ## The end of a reading -/

theorem processFaults_renumber :
    (draft.renumber place).processFaults.filterMap located =
      (draft.processFaults.filterMap located).map
        (InputError.renumber place) := by
  rw [processFaults, processFaults, List.map_filterMap, List.filterMap_map,
    List.filterMap_map]
  show
    List.filterMap _
        (draft.processLines.map (Line.renumber place)).zipIdx =
      _
  rw [List.zipIdx_map, List.filterMap_map]
  congr 1
  funext line
  simp only [Function.comp_apply, located, Option.map_map]
  rfl

theorem compiledLines_renumber :
    (draft.renumber place).processLines.zipIdx.filterMap
        (draft.input.registry.vocabulary.compiledLine? (α := α)) =
      draft.processLines.zipIdx.filterMap
        draft.input.registry.vocabulary.compiledLine? := by
  show
    List.filterMap _
        (draft.processLines.map (Line.renumber place)).zipIdx =
      _
  rw [List.zipIdx_map, List.filterMap_map]
  rfl

omit [Quantity α] in
theorem withSteps_renumber :
    (draft.renumber place).withSteps = draft.withSteps.renumber place := by
  rcases draft with ⟨input, steps, processLines⟩
  cases steps <;> rfl

theorem finish_renumber :
    (draft.renumber place).finish.value =
      draft.finish.value.renumber place := by
  have registry :
      (draft.renumber place).input.registry = draft.input.registry :=
    rfl
  rw [finish_eq, finish_eq, processFaults_renumber, withSteps_renumber, registry,
    compiledLines_renumber]
  simp only [SimulationInput.renumber, List.map_append]
  rfl

end Draft

/-- Lines under other numbers say the same, up to the locations of errors. -/
theorem SimulationInput.readLines_renumber
    [Quantity α]
    (lines : List Line) :
    readLines (α := α) (lines.map (Line.renumber place)) =
      renumbered place (renumber place) (readLines lines) := by
  have segments :=
    Draft.readSegments_renumber place ({} : Draft α) (Segment.ofLines lines)
  change (Draft.readSegments _ {}).value = _ at segments
  rw [readLines, readLines, Segment.ofLines_renumber, segments]
  cases (Draft.readSegments (α := α) (Segment.ofLines lines) {}).value with
  | error error => rfl
  | ok draft => exact congrArg Except.ok (draft.finish_renumber place)

end SurfaceKinetics
