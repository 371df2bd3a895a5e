import SurfaceKinetics.Proofs.Input.Accounting

/-!
# Severity

The fields of a lattice, a condition, a duration or the debug mode cannot be done
without, and every error in them is fatal.  Every error of a block, of one of its
lines or of the steps costs a line and is not fatal.  So a reading fails exactly at
the first header whose own fields cannot be read, with the error of these fields,
and whatever else is wrong with an input becomes a warning.
-/

namespace SurfaceKinetics

variable {α : Type}

/-! ## Failing with one severity -/

namespace HasSeverity

variable
    {β γ : Type}

/-- Where all errors are fatal, failing is failing with a fatal error. -/
theorem failure?_eq_some_iff
    {outcome : Except (InputError α) β}
    (severity : HasSeverity true outcome)
    (function : β → γ)
    (cause : InputError α) :
    Draft.failure? outcome = some cause ↔
      function <$> outcome = .error cause ∧ cause.isFatal = true := by
  cases outcome with
  | ok value => exact iff_of_false nofun (fun failed => nomatch failed.1)
  | error error =>
      constructor
      · rintro ⟨⟩
        exact ⟨rfl, severity _ rfl⟩
      · rintro ⟨⟨⟩, _⟩
        rfl

/-- Where no error is fatal, there is no failing with a fatal one. -/
theorem none_eq_some_iff
    {outcome : Except (InputError α) β}
    (severity : HasSeverity false outcome)
    (function : β → γ)
    (cause : InputError α) :
    none = some cause ↔
      function <$> outcome = .error cause ∧ cause.isFatal = true := by
  refine iff_of_false nofun ?_
  rintro ⟨failed, fatal⟩
  have harmless := severity cause (Directive.eq_error_of_map_eq_error failed)
  rw [fatal] at harmless
  cases harmless

end HasSeverity

/-! ## Headers -/

namespace Directive

variable [Quantity α]

/--
What keeps the fields of a header from being read, where an input cannot do without
them; other headers have no such fault.
-/
def fieldFault? (header : Line) : Option (InputError α) :=
  match Segment.keyword? header with
  | some .buildLattice => Draft.failure? (latticeOf header.tokens)
  | some .pressure =>
    Draft.failure? (valueOf (α := α) .pressure header.tokens .pressure)
  | some .temperature =>
    Draft.failure? (valueOf (α := α) .temperature header.tokens .temperature)
  | some .time => Draft.failure? (valueOf (α := α) .time header.tokens .time)
  | some .debug => Draft.failure? (debugOf header.tokens)
  | _ => none

/-- The fault of a header's own fields is the fatal error of its segment. -/
theorem fieldFault?_eq_some_iff
    (segment : Segment)
    (cause : InputError α) :
    fieldFault? segment.header = some cause ↔
      ofSegment segment = .error cause ∧ cause.isFatal = true := by
  rw [fieldFault?, ofSegment]
  cases Segment.keyword? segment.header with
  | none =>
      exact
        (HasSeverity.pure segment.header.keyword).none_eq_some_iff unknown cause
  | some keyword =>
      cases keyword with
      | buildLattice =>
          exact (severity_latticeOf _).failure?_eq_some_iff _ cause
      | species => exact (severity_blockOf _ segment).none_eq_some_iff _ cause
      | processes => exact (severity_blockOf _ segment).none_eq_some_iff _ cause
      | pressure => exact (severity_valueOf _ _ rfl).failure?_eq_some_iff _ cause
      | temperature =>
          exact (severity_valueOf _ _ rfl).failure?_eq_some_iff _ cause
      | time => exact (severity_valueOf _ _ rfl).failure?_eq_some_iff _ cause
      | steps => exact (severity_stepsOf _).none_eq_some_iff _ cause
      | debug => exact (severity_debugOf _).failure?_eq_some_iff _ cause

end Directive

/-! ## Lines of blocks -/

section Lines

variable [Quantity α]

theorem severity_declare (registry : Registry α) (line : Line) :
    HasSeverity false (Draft.declare registry line) := by
  rw [Draft.declare]
  split
  · split
    · rw [Registry.addSpecies]
      split
      · split
        · exact HasSeverity.throw rfl
        · exact HasSeverity.pure _
      · exact HasSeverity.throw rfl
    · exact HasSeverity.throw rfl
  · exact HasSeverity.throw rfl
  · exact HasSeverity.throw rfl

omit [Quantity α] in
theorem severity_ofText? (text : List Char) :
    HasSeverity (α := α) false (Equation.ofText? text) := by
  rw [Equation.ofText?]
  split
  · exact HasSeverity.throw rfl
  · split
    · exact HasSeverity.throw rfl
    · exact HasSeverity.pure _

theorem severity_compile
    (vocabulary : Vocabulary)
    (line : String)
    (ordinal : Nat) :
    HasSeverity (α := α) false (vocabulary.compile line ordinal) := by
  refine (severity_ofText? _).bind fun equation => ?_
  split
  · exact HasSeverity.throw rfl
  · exact HasSeverity.pure _

end Lines

namespace Draft

variable [Quantity α]

/-! ## Where a reading ends -/

/-- The located fault of a segment whose own fields cannot be read. -/
def fatal? (segment : Segment) : Option (InputError α) :=
  (Directive.fieldFault? segment.header).map (.atLine segment.header.number)

theorem readSegment_eq_error_iff
    (draft : Draft α)
    (segment : Segment)
    (error : InputError α) :
    (draft.readSegment segment).value = .error error ↔
      fatal? segment = some error := by
  rw [fatal?, Option.map_eq_some_iff, readSegment_eq]
  unfold takeBySeverity
  simp only [Directive.fieldFault?_eq_some_iff]
  cases Directive.ofSegment (α := α) segment with
  | ok directive =>
      constructor
      · intro failed
        cases failed
      · rintro ⟨_, ⟨⟨⟩, _⟩, _⟩
  | error cause =>
      dsimp only
      split
      · next severe =>
        constructor
        · rintro ⟨⟩
          exact ⟨cause, ⟨rfl, severe⟩, rfl⟩
        · rintro ⟨_, ⟨⟨⟩, _⟩, rfl⟩
          rfl
      · next harmless =>
        constructor
        · intro failed
          cases failed
        · rintro ⟨_, ⟨⟨⟩, severe⟩, _⟩
          exact (harmless severe).elim

/-- A reading fails with the first fatal error of its segments. -/
theorem readSegments_eq_error_iff
    (segments : List Segment)
    (draft : Draft α)
    (error : InputError α) :
    (readSegments segments draft).value = .error error ↔
      segments.findSome? fatal? = some error := by
  induction segments generalizing draft with
  | nil => exact iff_of_false nofun nofun
  | cons segment segments induction =>
      rw [readSegments, Noted.value_bind, List.findSome?_cons]
      have here := draft.readSegment_eq_error_iff segment
      cases read : (draft.readSegment segment).value with
      | error first =>
          rw [(here first).mp read]
          simp
      | ok next =>
          cases fault : fatal? (α := α) segment with
          | none => exact induction next
          | some first =>
              rw [(here first).mpr fault] at read
              cases read

/-- A reading that succeeds has met no header with a fault of its own fields. -/
theorem fieldFault?_eq_none
    {segments : List Segment}
    {draft last : Draft α}
    (read : (readSegments segments draft).value = .ok last)
    (segment : Segment)
    (member : segment ∈ segments) :
    Directive.fieldFault? (α := α) segment.header = none := by
  have faultless : segments.findSome? (fatal? (α := α)) = none := by
    apply Option.eq_none_iff_forall_ne_some.mpr
    intro error found
    rw [(readSegments_eq_error_iff segments draft error).mpr found] at read
    cases read
  exact Option.map_eq_none_iff.mp (List.findSome?_eq_none_iff.mp faultless _ member)

/-! ## Invariants -/

/-- A property of drafts is kept by all that a reading does to them. -/
structure Invariant (property : Draft α → Prop) : Prop where
  declared :
    ∀ {draft : Draft α} {line : Line} {registry : Registry α},
      property draft →
        declare draft.input.registry line = .ok registry →
          property { draft with input := { draft.input with registry } }
  recovered :
    ∀ {draft : Draft α} {error : InputError α},
      property draft →
        error.isFatal = false → property (draft.recover error).value
  applied :
    ∀ {draft : Draft α} {segment : Segment} (number : Nat) {directive : Directive α},
      property draft →
        Directive.ofSegment segment = .ok directive →
          (∀ body, directive ≠ .species body) →
            property (draft.apply number directive).value

namespace Invariant

variable
    {property : Draft α → Prop}
    (invariant : Invariant property)
    {draft : Draft α}
    (holds : property draft)

include invariant holds

theorem readSpecies (line : Line) :
    property (draft.readSpecies line).value := by
  rw [Draft.readSpecies]
  split
  · next registry declares => exact invariant.declared holds declares
  · next error failed =>
    exact invariant.recovered holds (severity_declare _ line error failed)

theorem foldlM_readSpecies (body : List Line) :
    property (body.foldlM Draft.readSpecies draft).value := by
  induction body generalizing draft with
  | nil => exact holds
  | cons line body induction =>
      rw [List.foldlM_cons, Noted.value_bind]
      exact induction (invariant.readSpecies holds line)

theorem apply
    (number : Nat)
    {segment : Segment}
    {directive : Directive α}
    (meant : Directive.ofSegment segment = .ok directive) :
    property (draft.apply number directive).value := by
  by_cases species : ∃ body, directive = .species body
  · rcases species with ⟨body, rfl⟩
    exact invariant.foldlM_readSpecies holds body
  · exact invariant.applied number holds meant (not_exists.mp species)

theorem readSegment
    {segment : Segment}
    {next : Draft α}
    (read : (draft.readSegment segment).value = .ok next) :
    property next := by
  rw [readSegment_eq] at read
  unfold takeBySeverity at read
  split at read
  · next directive meant =>
    cases read
    exact invariant.apply holds _ meant
  · split at read
    · cases read
    · next harmless =>
      cases read
      exact invariant.recovered holds (Bool.eq_false_iff.mpr harmless)

theorem readSegments
    {segments : List Segment}
    {last : Draft α}
    (read : (readSegments segments draft).value = .ok last) :
    property last := by
  induction segments generalizing draft with
  | nil =>
      cases read
      exact holds
  | cons segment segments induction =>
      rw [Draft.readSegments, Noted.value_bind] at read
      split at read
      · next nextEq => exact induction (invariant.readSegment holds nextEq) read
      · cases read

end Invariant

/-! ## Warnings -/

/-- All warnings of a draft are about errors that are not fatal. -/
def Mild (draft : Draft α) : Prop :=
  ∀ warning ∈ draft.input.warnings, warning.isFatal = false

theorem invariant_mild : Invariant (α := α) Mild where
  declared mild _ := mild
  recovered mild harmless := by
    intro warning member
    rcases List.mem_append.mp member with earlier | last
    · exact mild warning earlier
    · rw [List.mem_singleton.mp last]
      exact harmless
  applied number directive mild _ others := by
    cases directive with
    | species body => exact (others body rfl).elim
    | _ => exact mild

theorem Mild.finish {draft : Draft α} (mild : draft.Mild) :
    ∀ warning ∈ draft.finish.value.warnings, warning.isFatal = false := by
  intro warning member
  rw [finish_eq] at member
  rcases List.mem_append.mp member with earlier | compiling
  · exact mild warning earlier
  · rcases List.mem_filterMap.mp compiling with ⟨entry, entryMember, warns⟩
    rcases List.mem_map.mp entryMember with ⟨line, _, rfl⟩
    rcases Option.map_eq_some_iff.mp warns with ⟨cause, failed, rfl⟩
    exact severity_compile _ _ _ cause (failure?_eq_some_iff.mp failed)

end Draft

theorem InputError.exists_atLine_of_line?
    {error : InputError α}
    {number : Nat}
    (found : error.line? = some number) :
    ∃ cause, error = .atLine number cause := by
  cases error with
  | atLine other cause =>
      cases found
      exact ⟨cause, rfl⟩
  | _ => cases found

/--
A reading fails at the first header whose own fields an input cannot do without and
that cannot be read, with the fatal error of these fields, located in that line.
When there is no such header it succeeds, and each warning is about an error that is
not fatal, located in a significant line.
-/
theorem severity_decides
    [Quantity α]
    (source : String) :
    ∃ segments,
      (∀ other,
        Segment.Splits (significantLines source) other ↔ other = segments) ∧
        match (SimulationInput.read (α := α) source).value with
        | .error error =>
          error.isFatal = true ∧
            ∃ before segment after cause,
              segments = before ++ segment :: after ∧
                (∀ earlier ∈ before,
                  Directive.fieldFault? (α := α) earlier.header = none) ∧
                  Directive.fieldFault? segment.header = some cause ∧
                    error = .atLine segment.header.number cause
        | .ok input =>
          (∀ segment ∈ segments,
            Directive.fieldFault? (α := α) segment.header = none) ∧
            ∀ warning ∈ input.warnings,
              warning.isFatal = false ∧
                ∃ line ∈ significantLines source,
                  ∃ cause, warning = .atLine line.number cause := by
  have splits := Segment.splits_ofLines (significantLines source)
  refine ⟨Segment.ofLines (significantLines source), ?_, ?_⟩
  · intro other
    constructor
    · exact Segment.Splits.eq_ofLines
    · rintro rfl
      exact splits
  · split
    · next error failed =>
      rw [SimulationInput.value_read, SimulationInput.readLines] at failed
      have first :=
        (Draft.readSegments_eq_error_iff _ _ _).mp
          (Directive.eq_error_of_map_eq_error failed)
      rcases List.findSome?_eq_some_iff.mp first with
        ⟨before, segment, after, splitEq, found, earlier⟩
      rcases Option.map_eq_some_iff.mp found with ⟨cause, fault, rfl⟩
      refine
        ⟨((Directive.fieldFault?_eq_some_iff segment cause).mp fault).2,
          before, segment, after, cause, splitEq, ?_, fault, rfl⟩
      intro other member
      exact Option.map_eq_none_iff.mp (earlier other member)
    · next input read =>
      rcases SimulationInput.exists_draft read with ⟨draft, draftEq, inputEq⟩
      constructor
      · exact Draft.fieldFault?_eq_none draftEq
      · intro warning member
        constructor
        · have start : Draft.Mild (α := α) {} := List.forall_mem_nil _
          rw [inputEq] at member
          exact
            (Draft.invariant_mild.readSegments start draftEq).finish warning
              member
        · rcases SimulationInput.exists_settles read with ⟨_, settles⟩
          rcases settles.located splits.cut warning member with
            ⟨line, lineMember, lineEq⟩
          rw [splits.flatMap_lines] at lineMember
          exact
            ⟨line, lineMember, InputError.exists_atLine_of_line? lineEq⟩

/-- Lines that are wrong in many ways, one of them a bad temperature in a block. -/
def carelessText (rest : String) : String :=
  "nspecies 2\n" ++
    "temperature oops\n" ++
    "A 12.0\n" ++
    "steps one\n" ++
    "nprocesses many\n" ++
    rest

theorem severity_decides_careless :
    (∃ input : SimulationInput Float,
      (SimulationInput.read (carelessText "")).value = .ok input ∧
        input.warnings.map InputError.kind =
            ["MolecularWeight", "Steps", "Count"] ∧
          ∀ warning ∈ input.warnings, warning.isFatal = false) ∧
      ∃ error cause : InputError Float,
        (SimulationInput.read
            (carelessText "pressure high\ntime soon\n")).value =
              .error error ∧
          error.kind = "Pressure" ∧
            error.isFatal = true ∧ error = .atLine 6 cause := by
  constructor
  · have ahead :
        ((Draft.compiled?
              (SimulationInput.read (α := Float) (carelessText "")).value).any
          fun input =>
            input.warnings.map InputError.kind =
              ["MolecularWeight", "Steps", "Count"]) = true := by
      decide +kernel
    rcases severity_decides (α := Float) (carelessText "") with ⟨_, _, decided⟩
    revert ahead decided
    cases (SimulationInput.read (α := Float) (carelessText "")).value with
    | error error => exact nofun
    | ok input =>
        intro ahead decided
        refine ⟨input, rfl, of_decide_eq_true ahead, ?_⟩
        exact fun warning member => (decided.2 warning member).1
  · let source := carelessText "pressure high\ntime soon\n"
    have ahead :
        ((Draft.failure? (SimulationInput.read (α := Float) source).value).any
          fun error => error.kind = "Pressure" && error.line? = some 6) = true := by
      decide +kernel
    rcases severity_decides (α := Float) source with ⟨_, _, decided⟩
    change ∃ error cause, (SimulationInput.read source).value = _ ∧ _
    revert ahead decided
    cases (SimulationInput.read (α := Float) source).value with
    | ok input => exact nofun
    | error error =>
        intro ahead decided
        simp only [Draft.failure?, Option.any_some, Bool.and_eq_true,
          decide_eq_true_eq] at ahead
        rcases InputError.exists_atLine_of_line? ahead.2 with ⟨cause, located⟩
        exact ⟨error, cause, rfl, ahead.1, decided.1, located⟩

end SurfaceKinetics
