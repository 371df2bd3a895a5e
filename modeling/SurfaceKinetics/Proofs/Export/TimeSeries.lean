import Mathlib.Data.List.Forall2
import SurfaceKinetics.Export.TimeSeries
import SurfaceKinetics.Proofs.Decimal.Letters
import SurfaceKinetics.Proofs.Export.Downsampling
import SurfaceKinetics.Proofs.Export.Sheet
import SurfaceKinetics.Proofs.Input.Accounting
import SurfaceKinetics.Proofs.Ledger.Entries
import SurfaceKinetics.Proofs.Quantity.Exact
import SurfaceKinetics.Proofs.Simulation.Configuration
import SurfaceKinetics.Proofs.Simulation.Observation

/-!
# Reading a time series back

The header of a table is put together from the names of the processes, and its rows
from the samples.  The samples of a run have an event count and a coverage for every
process of its scenario, so all lines of its table have as many cells as the header,
and the events of a process stand below its name.

A number in a row has digits, perhaps a minus and perhaps the decimal separator of the
format, so a delimiter that is none of these is found between the cells and nowhere
else.
-/

namespace SurfaceKinetics

/-! ## Samples -/

section Samples

variable {α : Type} [Quantity α]

/-- The numbers that a table shows of a sample are finite. -/
structure Sample.IsFinite (sample : Sample α) : Prop where
  time : Quantity.isFinite sample.time = true
  growthRate : Quantity.isFinite sample.growthRate = true
  rms : Quantity.isFinite sample.surface.rms = true
  roughness : Quantity.isFinite sample.surface.roughness = true
  coverage : ∀ share ∈ sample.coverage, Quantity.isFinite share = true

theorem TimeSeries.faultyColumn?_eq_none_iff {sample : Sample α} :
    faultyColumn? sample = none ↔ sample.IsFinite := by
  rw [faultyColumn?]
  constructor
  · intro faultless
    split_ifs at faultless with time growthRate rms roughness coverage
    simp only [Bool.not_eq_true', Bool.not_eq_false, List.all_eq_true] at *
    exact ⟨time, growthRate, rms, roughness, coverage⟩
  · rintro ⟨time, growthRate, rms, roughness, coverage⟩
    simp [time, growthRate, rms, roughness, List.all_eq_true.mpr coverage]

/-- Every sample has an event count and a coverage for each of some processes. -/
structure SimulationResult.Aligned
    (result : SimulationResult α)
    (processes : Nat) : Prop where
  nonempty : result.samples ≠ []
  events : ∀ sample ∈ result.samples, sample.events.length = processes
  coverage : ∀ sample ∈ result.samples, sample.coverage.length = processes

/-- The samples of a run are aligned with the processes of its scenario. -/
theorem aligned_of_solve?
    {bound : Nat}
    {scenario : Scenario α}
    {config : RunConfig α}
    {result : SimulationResult α}
    (solved : (solve? bound scenario config).value = some (.ok result)) :
    result.processNames = scenario.processNames ∧
      result.Aligned scenario.processes.length := by
  rcases solve?_ok solved with ⟨_, final, reason, sound, rfl⟩
  refine ⟨rfl, ?_, ?_, ?_⟩
  · intro empty
    have last := sound.getLast?_finalSamples
    rw [show final.finalSamples = [] from empty] at last
    cases last
  · intro sample member
    rcases sound.mem_finalSamples member with ⟨run, reached, rfl⟩
    exact reached.length_events
  · intro sample member
    rcases sound.mem_finalSamples member with ⟨run, reached, rfl⟩
    rw [Run.sample, List.length_map, reached.scenario_eq]
    rfl

end Samples

namespace TimeSeries

/-! ## Cells -/

section Cells

variable {α : Type} [Quantity α]

/-- Behind five cells stand those of the events. -/
theorem getElem?_behind_five
    {first events others : List String}
    (lengthFirst : first.length = 5)
    {process : Nat}
    (inside : process < events.length) :
    (first ++ events ++ others)[5 + process]? = events[process]? := by
  rw [List.getElem?_append_left, List.getElem?_append_right, lengthFirst,
    Nat.add_sub_cancel_left]
  · rw [lengthFirst]
    exact Nat.le_add_right 5 process
  · rw [List.length_append, lengthFirst]
    exact Nat.add_lt_add_left inside 5

theorem length_columns (names : List String) :
    (columns names).length = 5 + 2 * names.length := by
  simp only [columns, List.length_append, List.length_map, List.length_cons,
    List.length_nil]
  omega

theorem getElem?_columns
    {names : List String}
    {process : Nat}
    {name : String}
    (found : names[process]? = some name) :
    (columns names)[5 + process]? = some ("Events " ++ name) := by
  have inside := (List.getElem?_eq_some_iff.mp found).1
  rw [columns, getElem?_behind_five rfl (by rwa [List.length_map]), List.getElem?_map,
    found, Option.map_some]

theorem length_fields (format : Format α) (sample : Sample α) :
    (fields format sample).length =
      5 + (sample.events.length + sample.coverage.length) := by
  simp only [fields, List.length_append, List.length_map, List.length_cons,
    List.length_nil]
  omega

theorem getElem?_fields_step (format : Format α) (sample : Sample α) :
    (fields format sample)[1]? = some (toString sample.step) :=
  rfl

theorem getElem?_fields_events
    (format : Format α)
    {sample : Sample α}
    {process count : Nat}
    (found : sample.events[process]? = some count) :
    (fields format sample)[5 + process]? = some (toString count) := by
  have inside := (List.getElem?_eq_some_iff.mp found).1
  rw [fields, getElem?_behind_five rfl (by rwa [List.length_map]), List.getElem?_map,
    found, Option.map_some]

end Cells

/-! ## Delimiters -/

/-- The delimiter of a format can be told from all else in a table. -/
structure Format.Delimits
    {α : Type}
    (format : Format α)
    (names : List String) : Prop extends Sheet.Delimits format.delimiter where
  separator : format.delimiter ≠ format.decimalSeparator
  titles : ∀ title ∈ columns names, format.delimiter ∉ title.toList

/-- A letter that may stand in a cell of a row. -/
def Format.IsCellLetter {α : Type} (format : Format α) (letter : Char) : Prop :=
  isWholeLetter letter = true ∨ letter = format.decimalSeparator

section Letters

variable
    {α : Type}
    [Quantity α]
    [DecimalLetters α]
    {format : Format α}

theorem isCellLetter_of_mem_field
    {value : α}
    (finite : Quantity.isFinite value = true)
    {letter : Char}
    (member : letter ∈ (field format value).toList) :
    format.IsCellLetter letter := by
  rw [field, String.toList_ofList] at member
  rcases List.mem_map.mp member with ⟨written, writtenMember, rfl⟩
  have decimal := DecimalLetters.of_mem_write (.places _) finite writtenMember
  split
  · exact Or.inr rfl
  · next other =>
    left
    simpa [isDecimalLetter, other] using decimal

/-- The cells of a finite sample have the letters of numbers. -/
theorem isCellLetter_of_mem_fields
    {sample : Sample α}
    (finite : sample.IsFinite)
    {cell : String}
    (cellMember : cell ∈ fields format sample)
    {letter : Char}
    (member : letter ∈ cell.toList) :
    format.IsCellLetter letter := by
  rw [fields, List.mem_append, List.mem_append] at cellMember
  rcases cellMember with (first | events) | coverage
  · simp only [List.mem_cons, List.not_mem_nil, or_false] at first
    rcases first with rfl | rfl | rfl | rfl | rfl
    · exact isCellLetter_of_mem_field finite.time member
    · exact Or.inl (isWholeLetter_of_mem_toString member)
    · exact isCellLetter_of_mem_field finite.growthRate member
    · exact isCellLetter_of_mem_field finite.rms member
    · exact isCellLetter_of_mem_field finite.roughness member
  · rcases List.mem_map.mp events with ⟨count, _, rfl⟩
    exact Or.inl (isWholeLetter_of_mem_toString member)
  · rcases List.mem_map.mp coverage with ⟨share, shareMember, rfl⟩
    exact isCellLetter_of_mem_field (finite.coverage share shareMember) member

end Letters

/-! ## Rows -/

/-- A line reads as the step and the events of a sample. -/
structure Shows
    {α : Type}
    (delimiter : Char)
    (processes : Nat)
    (sample : Sample α)
    (line : String) : Prop where
  width : (Sheet.cells delimiter line).length = 5 + 2 * processes
  step : ((Sheet.cells delimiter line)[1]?).bind String.toNat? = some sample.step
  events :
    ∀ process < processes,
      ∃ count,
        sample.events[process]? = some count ∧
          ((Sheet.cells delimiter line)[5 + process]?).bind String.toNat? = some count

/-- A line reads as the titles of the columns of named processes. -/
structure Titles (delimiter : Char) (names : List String) (line : String) : Prop where
  width : (Sheet.cells delimiter line).length = 5 + 2 * names.length
  events :
    ∀ process name,
      names[process]? = some name →
        (Sheet.cells delimiter line)[5 + process]? = some ("Events " ++ name)

namespace Format.Delimits

variable
    {α : Type}
    {format : Format α}
    {names : List String}
    (delimits : format.Delimits names)

include delimits

theorem titles_line : Titles format.delimiter names (line format (columns names)) := by
  have cellsEq :
      Sheet.cells format.delimiter (line format (columns names)) = columns names :=
    Sheet.cells_intercalate (List.cons_ne_nil _ _) delimits.titles
  constructor
  · rw [cellsEq, length_columns]
  · intro process name found
    rw [cellsEq, getElem?_columns found]

theorem not_isCellLetter : ¬ format.IsCellLetter format.delimiter := by
  rintro (whole | separator)
  · rw [delimits.toDelimits.not_isWholeLetter] at whole
    cases whole
  · exact delimits.separator separator

/-- A header is one line when the names of the processes have no line end. -/
theorem unbroken_columns (unbroken : ∀ name ∈ names, Sheet.Unbroken name) :
    Sheet.Unbroken (line format (columns names)) := by
  have titled
      {title : String}
      (free : Sheet.Unbroken title) :
      ∀ column ∈ names.map (title ++ ·), Sheet.Unbroken column := by
    rw [List.forall_mem_map]
    intro name member
    rw [Sheet.Unbroken, String.toList_append, List.mem_append, not_or]
    exact ⟨free, unbroken name member⟩
  apply Sheet.unbroken_intercalate delimits.lineEnd
  rw [columns, List.forall_mem_append, List.forall_mem_append]
  refine ⟨⟨?_, titled (by decide)⟩, titled (by decide)⟩
  simp only [List.forall_mem_cons]
  decide

variable [Quantity α] [DecimalLetters α]

theorem cells_fields
    {sample : Sample α}
    (finite : sample.IsFinite) :
    Sheet.cells format.delimiter (line format (fields format sample)) =
      fields format sample := by
  apply Sheet.cells_intercalate (List.cons_ne_nil _ _)
  intro cell cellMember member
  exact delimits.not_isCellLetter (isCellLetter_of_mem_fields finite cellMember member)

theorem shows_line
    {sample : Sample α}
    (finite : sample.IsFinite)
    {processes : Nat}
    (eventsLength : sample.events.length = processes)
    (coverageLength : sample.coverage.length = processes) :
    Shows format.delimiter processes sample (line format (fields format sample)) := by
  have cellsEq := delimits.cells_fields finite
  have read (number : Nat) : (toString number).toNat? = some number :=
    Nat.toNat?_repr number
  constructor
  · rw [cellsEq, length_fields, eventsLength, coverageLength, Nat.two_mul]
  · rw [cellsEq, getElem?_fields_step]
    exact read sample.step
  · intro process inside
    have found :=
      List.getElem?_eq_getElem (l := sample.events) (i := process)
        (by rwa [eventsLength])
    refine ⟨_, found, ?_⟩
    rw [cellsEq, getElem?_fields_events format found]
    exact read _

theorem unbroken_fields
    (separatorNe : format.decimalSeparator ≠ '\n')
    {sample : Sample α}
    (finite : sample.IsFinite) :
    Sheet.Unbroken (line format (fields format sample)) := by
  apply Sheet.unbroken_intercalate delimits.lineEnd
  intro cell cellMember member
  rcases isCellLetter_of_mem_fields finite cellMember member with whole | separator
  · cases whole
  · exact separatorNe separator.symm

end Format.Delimits

/-! ## Sheets -/

section Sheets

variable {α : Type} [Quantity α]

/-- The first fault of a result. -/
def fault? (result : SimulationResult α) : Option ExportFault :=
  if result.samples.isEmpty then some .noSamples
  else faultFrom? 0 result.samples

theorem faultFrom?_eq_none
    {samples : List (Sample α)}
    (finite : ∀ sample ∈ samples, sample.IsFinite)
    (row : Nat) :
    faultFrom? row samples = none := by
  induction samples generalizing row with
  | nil => rfl
  | cons sample samples induction =>
      rw [List.forall_mem_cons] at finite
      rw [faultFrom?, faultyColumn?_eq_none_iff.mpr finite.1]
      exact induction finite.2 (row + 1)

/-- The lines below the header. -/
def rowLines
    (format : Format α)
    (result : SimulationResult α)
    (count : Option Nat) :
    List String :=
  (Downsampling.indices result.samples.length count).filterMap fun place =>
    result.samples[place]?.map fun sample => line format (fields format sample)

/-- The table of a result, the comment lines first. -/
def sheet
    (format : Format α)
    (result : SimulationResult α)
    (count : Option Nat) :
    Sheet :=
  { fault? := fault? result
    lines :=
      (match format.about with
        | some about => commentLines about
        | none => []) ++
        line format (columns result.processNames) :: rowLines format result count }

section Writers

variable
    {m : Type → Type}
    [Monad m]
    [LawfulMonad m]
    (put : String → m Unit)
    (format : Format α)
    (result : SimulationResult α)
    (count : Option Nat)

theorem handLines_rowLines :
    Sheet.handLines put (rowLines format result count) =
      forM (Downsampling.indices result.samples.length count) fun place =>
        forM result.samples[place]? fun sample =>
          Sheet.handLine put (line format (fields format sample)) := by
  rw [rowLines, Sheet.handLines_filterMap]
  congr 1
  funext place
  cases result.samples[place]? <;> rfl

/-- A writer of a table is handed its sheet. -/
theorem handTo_eq :
    handTo put format result count = (sheet format result count).handTo put := by
  rw [handTo, Sheet.handTo, sheet, fault?]
  split_ifs
  · rfl
  · cases faultFrom? 0 result.samples with
    | some fault => rfl
    | none =>
        dsimp only
        rw [Sheet.handLines_append, Sheet.handLines_cons, handLines_rowLines]
        cases format.about with
        | none =>
            dsimp only [Sheet.handLines]
            rw [List.forM_nil, pure_bind, bind_assoc]
        | some about => rw [bind_assoc, bind_assoc]

end Writers

theorem write_eq_text
    (format : Format α)
    (result : SimulationResult α)
    (count : Option Nat) :
    write format result count = (sheet format result count).text := by
  rw [write, handTo_eq, Sheet.text]

/-- Without comment lines there is the header and the lines below it. -/
theorem lines_of_bare
    {format : Format α}
    (bare : format.about = none)
    (result : SimulationResult α)
    (count : Option Nat) :
    (sheet format result count).lines =
      line format (columns result.processNames) :: rowLines format result count := by
  rw [sheet, bare]
  rfl

/-- Every kept sample has a line, in the order of the samples. -/
theorem forall₂_rowLines
    (format : Format α)
    (result : SimulationResult α)
    (count : Option Nat) :
    List.Forall₂
      (fun place row =>
        ∃ sample,
          result.samples[place]? = some sample ∧
            row = line format (fields format sample))
      (Downsampling.indices result.samples.length count)
      (rowLines format result count) := by
  have inside :
      ∀ place ∈ Downsampling.indices result.samples.length count,
        place < result.samples.length :=
    fun _ => Downsampling.lt_of_mem_indices
  -- Every kept place has a sample, so that no place is dropped.
  rw [rowLines]
  generalize Downsampling.indices result.samples.length count = places at inside
  induction places with
  | nil => exact List.Forall₂.nil
  | cons place places induction =>
      rw [List.forall_mem_cons] at inside
      have found := List.getElem?_eq_getElem inside.1
      rw [List.filterMap_cons, found]
      exact List.Forall₂.cons ⟨_, found, rfl⟩ (induction inside.2)

theorem exists_sample_of_mem_rowLines
    {format : Format α}
    {result : SimulationResult α}
    {count : Option Nat}
    {row : String}
    (member : row ∈ rowLines format result count) :
    ∃ sample ∈ result.samples, row = line format (fields format sample) := by
  rcases List.mem_filterMap.mp member with ⟨place, _, rowEq⟩
  rcases Option.map_eq_some_iff.mp rowEq with ⟨sample, found, rfl⟩
  exact ⟨sample, List.mem_of_getElem? found, rfl⟩

end Sheets

/-! ## Tables -/

/-- No process of an input that has been read has a line end in its name. -/
theorem unbroken_names_of_read
    {α : Type}
    [Quantity α]
    {source : String}
    {input : SimulationInput α}
    (read : (SimulationInput.read source).value = .ok input)
    {scenario : Scenario α}
    (defined : (Scenario.ofInput input).value = .ok scenario) :
    ∀ name ∈ scenario.processNames, Sheet.Unbroken name := by
  rcases SimulationInput.exists_settles read with ⟨_, settles⟩
  rw [Scenario.processNames, List.forall_mem_map]
  intro process member
  rcases (Scenario.comes_of_ofInput defined).bound process member with
    ⟨descriptor, descriptorMember, bound⟩
  rcases settles.exists_name_eq descriptorMember with ⟨ordinal, nameEq⟩
  rw [Scenario.name_of_bind bound, nameEq, Sheet.Unbroken, String.toList_append,
    List.mem_append]
  rintro (category | digit)
  · revert category
    cases descriptor.category <;> decide
  · exact absurd (isWholeLetter_of_mem_toString digit) (by decide)

/--
A text is the table of a result: a header, one line for every sample that is kept, and
nothing else.  The header is one line unless a process has a line end in its name, as no
process has that was read from a text.
-/
structure Decodes
    {α : Type}
    [Quantity α]
    (format : Format α)
    (input : SimulationInput α)
    (scenario : Scenario α)
    (result : SimulationResult α)
    (count : Option Nat)
    (text header : String)
    (rows : List String) : Prop where
  titles : Titles format.delimiter scenario.processNames header
  below :
    ∃ rest, text = Sheet.terminated header ++ rest ∧ Sheet.lines? rest = some rows
  shown :
    List.Forall₂
      (fun place row =>
        ∃ sample,
          result.samples[place]? = some sample ∧
            Shows format.delimiter scenario.processes.length sample row)
      (Downsampling.indices result.samples.length count) rows
  lines : Sheet.Unbroken header → Sheet.lines? text = some (header :: rows)
  unbroken :
    ∀ source,
      (SimulationInput.read source).value = .ok input → Sheet.Unbroken header

def sampledConfig : RunConfig ℚ :=
  { limit := .steps 12, seed := 6, reportInterval := some (1 / 8) }

end TimeSeries

end SurfaceKinetics
