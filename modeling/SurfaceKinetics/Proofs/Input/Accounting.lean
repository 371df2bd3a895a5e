import SurfaceKinetics.Proofs.Input.Harvest
import SurfaceKinetics.Proofs.Input.Registration

/-!
# Every line is accounted for

Each significant line of an input is in one place of one segment: a header, a line
of a species block or a line of a process block.  So each has one outcome.  A line
of a species block is a declared species or one warning, and a line of a process
block is a registered process, named for its category and its place among all
process lines, or one warning; no two warnings are about one line.
-/

namespace SurfaceKinetics

/-! ## The end of a reading -/

theorem Noted.value_mapM
    {β γ : Type}
    (function : β → Noted γ)
    (items : List β) :
    (items.mapM function).value = items.map fun item => (function item).value := by
  have loop (results : List γ) :
      (List.mapM.loop function items results).value =
        results.reverse ++ items.map fun item => (function item).value := by
    induction items generalizing results with
    | nil => simp [List.mapM.loop]
    | cons item items induction =>
        rw [List.mapM.loop, value_bind, induction]
        simp
  rw [List.mapM, loop, List.reverse_nil, List.nil_append]

namespace Draft

variable {α : Type} [Quantity α]

omit [Quantity α] in
theorem compiled?_eq_some_iff
    {ε β : Type}
    {outcome : Except ε β}
    {value : β} :
    compiled? outcome = some value ↔ outcome = .ok value := by
  cases outcome <;> simp [compiled?]

omit [Quantity α] in
theorem failure?_eq_some_iff
    {ε β : Type}
    {outcome : Except ε β}
    {error : ε} :
    failure? outcome = some error ↔ outcome = .error error := by
  cases outcome <;> simp [failure?]

/-- Recovering from errors adds them to the warnings and changes nothing else. -/
theorem value_foldlM_recover (draft : Draft α) (errors : List (InputError α)) :
    (errors.foldlM recover draft).value =
      { draft with
        input :=
          { draft.input with warnings := draft.input.warnings ++ errors } } := by
  induction errors generalizing draft with
  | nil => simp
  | cons error errors induction =>
      rw [List.foldlM_cons, Noted.value_bind, induction]
      simp [recover]

/-- What compiling a numbered line yields. -/
theorem value_compileLine (vocabulary : Vocabulary) (line : Line × Nat) :
    compiled? (compileLine (α := α) vocabulary line).value =
        vocabulary.compiledLine? line ∧
      failure? (compileLine (α := α) vocabulary line).value =
        located (line.1, vocabulary.lineFailure? line) := by
  rw [compileLine, Vocabulary.compiledLine?, located, Vocabulary.lineFailure?]
  cases vocabulary.compile (α := α) (String.ofList line.1.text) line.2 with
  | error error => exact ⟨rfl, rfl⟩
  | ok compiled => exact ⟨rfl, rfl⟩

/-- The process lines of a draft with their faults. -/
def processFaults (draft : Draft α) : List (Line × Option (InputError α)) :=
  draft.processLines.zipIdx.map fun line =>
    (line.1, draft.input.registry.vocabulary.lineFailure? line)

/-- A draft is finished with its compiled processes and what failed to compile. -/
theorem finish_eq (draft : Draft α) :
    draft.finish.value =
      { draft.withSteps with
        registry :=
          ((draft.processLines.zipIdx.filterMap
              draft.input.registry.vocabulary.compiledLine?).foldlM
            Registry.register draft.input.registry).value
        warnings :=
          draft.input.warnings ++ draft.processFaults.filterMap located } := by
  generalize vocabularyEq : draft.input.registry.vocabulary = vocabulary
  have compiledEq :
      ((draft.processLines.zipIdx.map fun line =>
            (compileLine (α := α) vocabulary line).value).filterMap compiled?) =
        draft.processLines.zipIdx.filterMap vocabulary.compiledLine? := by
    rw [List.filterMap_map]
    congr 1
    exact funext fun line => (value_compileLine vocabulary line).1
  have failuresEq :
      ((draft.processLines.zipIdx.map fun line =>
            (compileLine (α := α) vocabulary line).value).filterMap failure?) =
        draft.processFaults.filterMap located := by
    rw [processFaults, vocabularyEq, List.filterMap_map, List.filterMap_map]
    congr 1
    exact funext fun line => (value_compileLine vocabulary line).2
  rw [finish, Noted.value_bind]
  simp only [conclude, Noted.value_bind, Noted.value_pure, Noted.value_mapM,
    vocabularyEq, compiledEq, failuresEq, value_foldlM_recover, withSteps]
  cases draft.steps <;> rfl

theorem registry_finish (draft : Draft α) :
    draft.finish.value.registry =
      ((draft.processLines.zipIdx.filterMap
          draft.input.registry.vocabulary.compiledLine?).foldlM
        Registry.register draft.input.registry).value := by
  rw [finish_eq]

theorem warnings_finish (draft : Draft α) :
    draft.finish.value.warnings =
      draft.input.warnings ++ draft.processFaults.filterMap located := by
  rw [finish_eq]

theorem species_finish (draft : Draft α) :
    draft.finish.value.registry.species = draft.input.registry.species := by
  rw [registry_finish, Registry.species_foldlM_register]

theorem processes_finish
    {draft : Draft α}
    (indexed : draft.input.registry.Indexed)
    (unregistered : draft.input.registry.processes = []) :
    draft.finish.value.registry.processes =
      draft.processLines.zipIdx.filterMap
        draft.input.registry.vocabulary.compiledLine? := by
  -- Ordinals keep the names apart, so no process is registered over another.
  have distinct :
      ((draft.input.registry.processes ++
          draft.processLines.zipIdx.filterMap
            (draft.input.registry.vocabulary.compiledLine? (α := α))).map
        Descriptor.name).Nodup := by
    rw [unregistered, List.nil_append]
    apply draft.input.registry.vocabulary.nodup_names_compiledLine?
    rw [List.zipIdx_map_snd]
    exact List.nodup_range'
  rw [registry_finish, Registry.processes_foldlM_register indexed distinct,
    unregistered, List.nil_append]

end Draft

/-- What significant lines say, whatever text they come from. -/
def SimulationInput.readLines
    {α : Type}
    [Quantity α]
    (lines : List Line) :
    Except (InputError α) (SimulationInput α) :=
  (Draft.readSegments (Segment.ofLines lines) {}).value.map fun draft =>
    draft.finish.value

/-- A source says what its significant lines say. -/
theorem SimulationInput.value_read
    {α : Type}
    [Quantity α]
    (source : String) :
    (read (α := α) source).value = readLines (significantLines source) := by
  rw [read, readLines, Noted.value_bind]
  cases (Draft.readSegments (α := α)
      (Segment.ofLines (significantLines source)) {}).value <;> rfl

/-- An input that is read is a finished draft. -/
theorem SimulationInput.exists_draft
    {α : Type}
    [Quantity α]
    {source : String}
    {input : SimulationInput α}
    (read : (SimulationInput.read source).value = .ok input) :
    ∃ draft,
      (Draft.readSegments (Segment.ofLines (significantLines source)) {}).value =
          .ok draft ∧
        input = draft.finish.value := by
  rw [value_read, readLines] at read
  exact Directive.exists_of_map_eq_ok read

/-! ## What a finished input consists of -/

section Settled

variable {α : Type} [Quantity α]

/-- The lines of process blocks with what keeps them from being compiled. -/
def lineFaults
    (vocabulary : Vocabulary)
    (segments : List Segment) :
    List (Line × Option (InputError α)) :=
  (Segment.processLines segments).zipIdx.map fun line =>
    (line.1, vocabulary.lineFailure? line)

/-- An input consists of a harvest and the processes that were compiled. -/
structure Harvest.Settles
    (segments : List Segment)
    (harvest : Harvest α)
    (input : SimulationInput α) : Prop where
  reaped : Draft.Reaped segments harvest
  spelled :
    ∀ line species,
      (line, .ok species) ∈ harvest.species → line.species? = some species
  taken :
    ∀ (line : Line) (error : InputError α),
      (line, .error error) ∈ harvest.species →
        ∀ species : Species α,
          line.species? = some species →
            species.isAdmissible = true →
              species.symbol ∈ input.registry.symbols
  species : input.registry.species.Perm harvest.declared
  processes :
    input.registry.processes =
      (Segment.processLines segments).zipIdx.filterMap
        input.registry.vocabulary.compiledLine?
  indexed : input.registry.Indexed
  warnings :
    input.warnings.Perm
      ((harvest.faults ++
          lineFaults input.registry.vocabulary segments).filterMap located)

theorem SimulationInput.exists_settles
    {source : String}
    {input : SimulationInput α}
    (read : (SimulationInput.read source).value = .ok input) :
    ∃ harvest : Harvest α,
      harvest.Settles (Segment.ofLines (significantLines source)) input := by
  rcases SimulationInput.exists_draft read with ⟨draft, draftEq, rfl⟩
  have cut := (Segment.splits_ofLines (significantLines source)).cut
  rcases Draft.readSegments_gains cut draftEq with ⟨harvest, reaped, gains⟩
  have unregistered : draft.input.registry.processes = [] := gains.processes
  have indexed := Registry.indexed_of_unregistered unregistered gains.byName
  have linesEq :
      draft.processLines =
        Segment.processLines (Segment.ofLines (significantLines source)) :=
    gains.processLines.trans reaped.processes
  have speciesEq := draft.species_finish
  have vocabularyEq :
      draft.finish.value.registry.vocabulary = draft.input.registry.vocabulary := by
    rw [Registry.vocabulary, Registry.symbols, speciesEq]
    rfl
  refine ⟨harvest, reaped, gains.spelled, ?_, ?_, ?_, ?_, ?_⟩
  · rw [Registry.symbols, speciesEq]
    exact gains.taken
  · rw [speciesEq]
    exact gains.species
  · rw [vocabularyEq, Draft.processes_finish indexed unregistered, ← linesEq]
  · rw [Draft.registry_finish]
    exact indexed.foldlM_register _
  · rw [vocabularyEq, Draft.warnings_finish, List.filterMap_append, lineFaults,
      ← linesEq]
    exact gains.warnings.append_right _

end Settled

/-! ## Accounts -/

/--
Every line of some segments is accounted for in an input.  Lines are told apart by their
numbers.
-/
structure SimulationInput.Accounts
    {α : Type}
    [Quantity α]
    (segments : List Segment)
    (input : SimulationInput α) : Prop where
  /-- Every warning is about a line, and no two are about the same one. -/
  located :
    ∀ warning ∈ input.warnings,
      ∃ line ∈ segments.flatMap Segment.lines,
        warning.line? = some line.number
  distinct : (input.warnings.map InputError.line?).Nodup
  speciesLine :
    ∀ line ∈ Segment.speciesLines segments,
      input.warningsAt line.number = [] ∨
        ∃ error, input.warningsAt line.number = [.atLine line.number error]
  /-- The declared species are those spelled by the lines without a warning. -/
  species :
    (input.registry.species.map some).Perm
      (((Segment.speciesLines segments).filter fun line =>
          (input.warningsAt line.number).isEmpty).map Line.species?)
  /-- A symbol is declared once some line gives it an admissible weight. -/
  symbols :
    ∀ line ∈ Segment.speciesLines segments,
      ∀ species : Species α,
        line.species? = some species →
          species.isAdmissible = true →
            species.symbol ∈ input.registry.symbols
  processLine :
    ∀ line ∈ (Segment.processLines segments).zipIdx,
      match
        input.registry.vocabulary.compile (String.ofList line.1.text) line.2 with
      | .ok compiled =>
        input.warningsAt line.1.number = [] ∧
          compiled.value.name =
              compiled.value.category.name ++ toString line.2 ∧
            input.registry.process? compiled.value.name = some compiled.value
      | .error error =>
        input.warningsAt line.1.number = [.atLine line.1.number error]
  /-- The registered processes are the compiled lines, in the order of the lines. -/
  processes :
    input.registry.processes =
      (Segment.processLines segments).zipIdx.filterMap
        input.registry.vocabulary.compiledLine?
  names : (input.registry.processes.map Descriptor.name).Nodup

namespace Harvest.Settles

variable
    {α : Type}
    [Quantity α]
    {segments : List Segment}
    {harvest : Harvest α}
    {input : SimulationInput α}
    (settles : harvest.Settles segments input)

include settles

theorem mem_processes_iff {process : Descriptor α} :
    process ∈ input.registry.processes ↔
      ∃ line ∈ (Segment.processLines segments).zipIdx,
        input.registry.vocabulary.compiledLine? line = some process := by
  rw [settles.processes, List.mem_filterMap]

theorem symbols :
    ∀ line ∈ Segment.speciesLines segments,
      ∀ species : Species α,
        line.species? = some species →
          species.isAdmissible = true →
            species.symbol ∈ input.registry.symbols := by
  intro line member species spelled admissible
  rw [← settles.reaped.species] at member
  rcases List.mem_map.mp member with ⟨⟨_, outcome⟩, entryMember, rfl⟩
  cases outcome with
  | error error =>
      exact settles.taken _ error entryMember species spelled admissible
  | ok declared =>
      have same := settles.spelled _ declared entryMember
      rw [spelled] at same
      cases same
      have inside : species ∈ harvest.declared :=
        List.mem_filterMap.mpr ⟨_, entryMember, rfl⟩
      exact List.mem_map_of_mem (settles.species.symm.subset inside)

/-- The lines of a harvest and the process lines are all lines of the segments. -/
theorem perm_lines (cut : ∀ segment ∈ segments, segment.Cut) :
    ((harvest.faults ++
          lineFaults (α := α) input.registry.vocabulary segments).map
        Prod.fst).Perm
      (segments.flatMap Segment.lines) := by
  have headersEq : harvest.headers.map Prod.fst = segments.map Segment.header := by
    rw [settles.reaped.headers, List.map_map]
    rfl
  have faultsEq :
      harvest.faults.map Prod.fst =
        segments.map Segment.header ++ Segment.speciesLines segments := by
    rw [Harvest.faults, List.map_append, headersEq, List.map_map,
      ← settles.reaped.species]
    rfl
  have processesEq :
      (lineFaults (α := α) input.registry.vocabulary segments).map Prod.fst =
        Segment.processLines segments := by
    rw [lineFaults, List.map_map]
    exact List.zipIdx_map_fst 0 _
  rw [List.map_append, faultsEq, processesEq, List.append_assoc]
  exact Segment.perm_lines cut

theorem names : (input.registry.processes.map Descriptor.name).Nodup := by
  rw [settles.processes]
  apply Vocabulary.nodup_names_compiledLine?
  rw [List.zipIdx_map_snd]
  exact List.nodup_range'

/-- The name of a process is its category followed by an ordinal. -/
theorem exists_name_eq
    {process : Descriptor α}
    (member : process ∈ input.registry.processes) :
    ∃ ordinal : Nat, process.name = process.category.name ++ toString ordinal := by
  rcases settles.mem_processes_iff.mp member with ⟨line, _, compiled⟩
  exact ⟨line.2, Vocabulary.name_of_compiledLine? _ compiled⟩

theorem located (cut : ∀ segment ∈ segments, segment.Cut) :
    ∀ warning ∈ input.warnings,
      ∃ line ∈ segments.flatMap Segment.lines,
        warning.line? = some line.number := by
  intro warning member
  rcases List.mem_filterMap.mp (settles.warnings.subset member) with
    ⟨entry, entryMember, warns⟩
  have line := (settles.perm_lines cut).subset (List.mem_map_of_mem entryMember)
  exact ⟨entry.1, line, line?_of_located warns⟩

variable
    (numbers : ((segments.flatMap Segment.lines).map Line.number).Nodup)
    (cut : ∀ segment ∈ segments, segment.Cut)

include numbers cut

theorem nodup_numbers :
    ((harvest.faults ++
          lineFaults (α := α) input.registry.vocabulary segments).map
        fun entry => entry.1.number).Nodup := by
  have perm := (settles.perm_lines cut).map Line.number
  rw [List.map_map] at perm
  exact perm.nodup_iff.mpr numbers

/-- A line is warned about once for its fault, and not at all without one. -/
theorem warningsAt_eq
    {entry : Line × Option (InputError α)}
    (member :
      entry ∈
        harvest.faults ++ lineFaults input.registry.vocabulary segments) :
    input.warningsAt entry.1.number = (SurfaceKinetics.located entry).toList := by
  have perm :
      (input.warningsAt entry.1.number).Perm
        (SurfaceKinetics.located entry).toList := by
    rw [← filter_located (settles.nodup_numbers numbers cut) member]
    exact settles.warnings.filter _
  cases warns : SurfaceKinetics.located entry with
  | none =>
      rw [warns] at perm
      exact List.perm_nil.mp perm
  | some warning =>
      rw [warns] at perm
      exact List.perm_singleton.mp perm

theorem warningsAt_species
    {line : Line}
    {outcome : Except (InputError α) (Species α)}
    (member : (line, outcome) ∈ harvest.species) :
    input.warningsAt line.number =
      ((Draft.failure? outcome).map (.atLine line.number)).toList := by
  have inside :
      (line, Draft.failure? outcome) ∈
        harvest.faults ++ lineFaults input.registry.vocabulary segments :=
    List.mem_append_left _ <|
      List.mem_append_right _ (List.mem_map.mpr ⟨_, member, rfl⟩)
  exact settles.warningsAt_eq numbers cut inside

theorem warningsAt_process
    {line : Line × Nat}
    (member : line ∈ (Segment.processLines segments).zipIdx) :
    input.warningsAt line.1.number =
      ((input.registry.vocabulary.lineFailure? line).map
        (.atLine line.1.number)).toList := by
  have inside :
      (line.1, input.registry.vocabulary.lineFailure? line) ∈
        harvest.faults ++
          lineFaults (α := α) input.registry.vocabulary segments :=
    List.mem_append_right _ (List.mem_map.mpr ⟨line, member, rfl⟩)
  exact settles.warningsAt_eq numbers cut inside

theorem distinct : (input.warnings.map InputError.line?).Nodup := by
  have numbered := settles.nodup_numbers numbers cut
  rw [(settles.warnings.map InputError.line?).nodup_iff]
  refine List.Nodup.sublist (map_line?_located_sublist _) ?_
  rw [List.Nodup, List.pairwise_map] at numbered ⊢
  exact numbered.imp fun different same => different (Option.some.inj same)

theorem speciesLine :
    ∀ line ∈ Segment.speciesLines segments,
      input.warningsAt line.number = [] ∨
        ∃ error, input.warningsAt line.number = [.atLine line.number error] := by
  intro line member
  rw [← settles.reaped.species] at member
  rcases List.mem_map.mp member with ⟨⟨_, outcome⟩, entryMember, rfl⟩
  rw [settles.warningsAt_species numbers cut entryMember]
  cases outcome with
  | error error => exact Or.inr ⟨error, rfl⟩
  | ok species => exact Or.inl rfl

theorem species_perm :
    (input.registry.species.map some).Perm
      (((Segment.speciesLines segments).filter fun line =>
          (input.warningsAt line.number).isEmpty).map Line.species?) := by
  have declaredEq :
      harvest.declared.map some =
        ((harvest.species.map Prod.fst).filter fun line =>
            (input.warningsAt line.number).isEmpty).map Line.species? := by
    apply harvest.map_some_declared
    rintro ⟨line, outcome⟩ member
    rw [settles.warningsAt_species numbers cut member]
    cases outcome with
    | error error => rfl
    | ok species => exact ⟨rfl, settles.spelled line species member⟩
  rw [← settles.reaped.species, ← declaredEq]
  exact settles.species.map some

theorem processLine :
    ∀ line ∈ (Segment.processLines segments).zipIdx,
      match
        input.registry.vocabulary.compile (String.ofList line.1.text) line.2 with
      | .ok compiled =>
        input.warningsAt line.1.number = [] ∧
          compiled.value.name =
              compiled.value.category.name ++ toString line.2 ∧
            input.registry.process? compiled.value.name = some compiled.value
      | .error error =>
        input.warningsAt line.1.number = [.atLine line.1.number error] := by
  intro line member
  have warningsEq := settles.warningsAt_process numbers cut member
  rw [Vocabulary.lineFailure?] at warningsEq
  split
  · next compiled compiles =>
    rw [compiles] at warningsEq
    have registered : compiled.value ∈ input.registry.processes :=
      settles.mem_processes_iff.mpr
        ⟨line, member,
          (Vocabulary.compiledLine?_eq_some_iff _).mpr ⟨compiled, compiles, rfl⟩⟩
    exact
      ⟨warningsEq, Vocabulary.name_of_compile compiles,
        settles.indexed.process?_eq_some_iff.mpr ⟨registered, rfl⟩⟩
  · next error failed =>
    rw [failed] at warningsEq
    exact warningsEq

theorem accounts : input.Accounts segments where
  located := settles.located cut
  distinct := settles.distinct numbers cut
  speciesLine := settles.speciesLine numbers cut
  species := settles.species_perm numbers cut
  symbols := settles.symbols
  processLine := settles.processLine numbers cut
  processes := settles.processes
  names := settles.names

end Harvest.Settles

/--
An input that is read has its significant lines split into segments in the only
possible way, and every line of them is accounted for.
-/
theorem every_line_accounted
    {α : Type}
    [Quantity α]
    {source : String}
    {input : SimulationInput α}
    (read : (SimulationInput.read source).value = .ok input) :
    (significantLines source).Pairwise (·.number < ·.number) ∧
      ∃ segments,
        (∀ other,
          Segment.Splits (significantLines source) other ↔ other = segments) ∧
          segments.flatMap Segment.lines = significantLines source ∧
            input.Accounts segments := by
  have increasing := significantLines_increasing source
  have splits := Segment.splits_ofLines (significantLines source)
  rcases SimulationInput.exists_settles read with ⟨harvest, settles⟩
  have numbers :
      (((Segment.ofLines (significantLines source)).flatMap
          Segment.lines).map Line.number).Nodup := by
    rw [splits.flatMap_lines, List.Nodup, List.pairwise_map]
    exact increasing.imp Nat.ne_of_lt
  refine
    ⟨increasing, Segment.ofLines (significantLines source), ?_,
      splits.flatMap_lines, settles.accounts numbers splits.cut⟩
  intro other
  constructor
  · exact Segment.Splits.eq_ofLines
  · rintro rfl
    exact splits

/-- A source with a bad line in each block, and a block that is cut short. -/
def faultyText : String :=
  "nprocesses 2\n" ++
    "A + * -> A*, 1.0\n" ++
    "A* without an arrow, 1.0\n" ++
    "nspecies 2\n" ++
    "A 12.0\n" ++
    "A 13.0 # declared twice\n" ++
    "\n" ++
    "nprocesses 1\n" ++
    "A* -> A + *, 2.0\n" ++
    "nprocesses 3\n" ++
    "temperature 500\n"

theorem every_line_accounted_faulty :
    ∃ (input : SimulationInput Float) (segments : List Segment),
      (SimulationInput.read faultyText).value = .ok input ∧
        Segment.Splits (significantLines faultyText) segments ∧
          input.Accounts segments ∧
            input.registry.symbols = ["A"] ∧
              input.registry.processes.map Descriptor.name =
                  ["Adsorption0", "Desorption2"] ∧
                input.warnings.map InputError.line? =
                  [some 6, some 10, some 3] := by
  have ahead :
      ((Draft.compiled?
            (SimulationInput.read (α := Float) faultyText).value).any
        fun input =>
          input.registry.symbols = ["A"] &&
            input.registry.processes.map Descriptor.name =
              ["Adsorption0", "Desorption2"] &&
            input.warnings.map InputError.line? = [some 6, some 10, some 3]) =
        true := by
    decide +kernel
  rcases (Option.any_eq_true _ _).mp ahead with ⟨input, found, checked⟩
  simp only [Bool.and_eq_true, decide_eq_true_eq] at checked
  rcases checked with ⟨⟨symbols, names⟩, warnings⟩
  have read : (SimulationInput.read faultyText).value = .ok input := by
    revert found
    cases (SimulationInput.read (α := Float) faultyText).value with
    | error error => intro found; cases found
    | ok other => intro found; cases found; rfl
  rcases every_line_accounted read with ⟨_, segments, splits, _, accounts⟩
  exact
    ⟨input, segments, read, (splits segments).mpr rfl, accounts, symbols, names,
      warnings⟩

end SurfaceKinetics
