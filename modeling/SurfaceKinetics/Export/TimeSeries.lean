import SurfaceKinetics.Export.Downsampling
import SurfaceKinetics.Export.Sheet
import SurfaceKinetics.Simulation.Result

/-!
# Time series

The samples of a result as a table: one header line and one line per sample.
Before the header there may be comment lines about the run.  A result without
samples, or with a number that is not finite, has no table.
-/

namespace SurfaceKinetics

namespace TimeSeries

/-- What the comment lines say about a run; what is missing has no line. -/
structure About (α : Type) where
  generated : Option String := none
  lattice : Option String := none
  solver : Option String := none
  seed : Option UInt64 := none
  finalTime : Option α := none
  steps : Option Nat := none
  stopReason : Option String := none
  custom : List (String × String) := []

/-- How a table is written. -/
structure Format (α : Type) where
  delimiter : Char := ','
  decimalSeparator : Char := '.'
  precision : Nat := 6
  about : Option (About α) := none

/-- Semicolons between fields and a comma before decimal places. -/
def Format.european {α : Type} : Format α :=
  { delimiter := ';', decimalSeparator := ',' }

/-- Twelve decimal places. -/
def Format.highPrecision {α : Type} : Format α := { precision := 12 }

/-- A lattice in a few words. -/
def describe (config : LatticeConfig) : String :=
  let size := s!"{config.kind.tag} {config.columns}x{config.rows}"
  if config.label.isEmpty then size else s!"{size} ({config.label})"

/-- What a result knows about its run. -/
def About.ofResult {α : Type} (result : SimulationResult α) : About α :=
  let entry (key title : String) :=
    match result.metadata.get? key with
    | some text => [(title, text)]
    | none => []
  { lattice := some (describe result.lattice.config)
    solver := result.metadata.get? "solver"
    seed := some result.seed
    finalTime := some result.time
    steps := some result.steps
    stopReason := some result.stopReason.message
    custom :=
      entry "temperature" "Temperature (K)" ++ entry "pressure" "Pressure (Pa)" }

variable {α : Type} [Quantity α]

/-! ## Comment lines -/

/-- A comment line, if there is something to say. -/
def commentLine (title : String) (text : Option String) : List String :=
  match text with
  | some text => [s!"# {title}: {text}"]
  | none => []

/-- The comment lines about a run. -/
def commentLines (about : About α) : List String :=
  ["# Kinetic Monte Carlo Simulation Data"] ++
    commentLine "Generated" about.generated ++
    commentLine "Lattice" about.lattice ++
    commentLine "Solver" about.solver ++
    commentLine "Seed" (about.seed.map fun seed => toString seed.toNat) ++
    commentLine "Final Time"
      (about.finalTime.map fun time => Quantity.plain time ++ " s") ++
    commentLine "Steps" (about.steps.map toString) ++
    commentLine "Stopped" about.stopReason ++
    about.custom.flatMap (fun entry => commentLine entry.1 (some entry.2)) ++
    ["#"]

/-! ## Columns and rows -/

/-- The titles of the columns. -/
def columns (names : List String) : List String :=
  ["Time (s)", "Step", "Growth rate (ML/s)", "RMS", "Roughness"] ++
    names.map ("Events " ++ ·) ++ names.map ("Coverage " ++ ·)

/-- A number with the decimal places and the separator of a format. -/
def field (format : Format α) (value : α) : String :=
  let text := Quantity.write (.places format.precision) value
  String.ofList <|
    text.toList.map fun letter =>
      if letter = '.' then format.decimalSeparator else letter

/-- The fields of a row. -/
def fields (format : Format α) (sample : Sample α) : List String :=
  [field format sample.time, toString sample.step,
      field format sample.growthRate, field format sample.surface.rms,
      field format sample.surface.roughness] ++
    sample.events.map toString ++ sample.coverage.map (field format)

/-- Fields with the delimiter of a format between them. -/
def line (format : Format α) (fields : List String) : String :=
  format.delimiter.toString.intercalate fields

/-! ## Tables -/

/-- The first column of a sample with a number that is not finite. -/
def faultyColumn? (sample : Sample α) : Option String :=
  if !Quantity.isFinite sample.time then some "Time (s)"
  else if !Quantity.isFinite sample.growthRate then some "Growth rate (ML/s)"
  else if !Quantity.isFinite sample.surface.rms then some "RMS"
  else if !Quantity.isFinite sample.surface.roughness then some "Roughness"
  else if !sample.coverage.all Quantity.isFinite then some "Coverage"
  else none

/-- The first fault of numbered samples. -/
def faultFrom? : Nat → List (Sample α) → Option ExportFault
  | _, [] => none
  | row, sample :: rest =>
    match faultyColumn? sample with
    | some column => some (.notFinite column row)
    | none => faultFrom? (row + 1) rest

/--
Hands the table of a result to a writer, thinned out to a number of rows if one is
given.  Nothing is handed over before all samples have been looked at.
-/
def handTo
    {m : Type → Type}
    [Monad m]
    (put : String → m Unit)
    (format : Format α)
    (result : SimulationResult α)
    (count : Option Nat) :
    m (Except ExportFault Unit) :=
  if result.samples.isEmpty then
    pure (.error .noSamples)
  else
    match faultFrom? 0 result.samples with
    | some fault => pure (.error fault)
    | none => do
      if let some about := format.about then
        Sheet.handLines put (commentLines about)
      Sheet.handLine put (line format (columns result.processNames))
      forM (Downsampling.indices result.samples.length count) fun place =>
        forM result.samples[place]? fun sample =>
          Sheet.handLine put (line format (fields format sample))
      pure (.ok ())

/-- The table of a result as a text. -/
def write
    (format : Format α)
    (result : SimulationResult α)
    (count : Option Nat) :
    Except ExportFault String :=
  Sheet.collected (handTo Sheet.collect format result count)

end TimeSeries

end SurfaceKinetics
