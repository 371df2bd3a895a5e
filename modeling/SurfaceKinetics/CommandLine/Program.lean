import SurfaceKinetics.CommandLine.Arguments
import SurfaceKinetics.CommandLine.Console
import SurfaceKinetics.CommandLine.Failure
import SurfaceKinetics.CommandLine.LogFilter
import SurfaceKinetics.Export.Destination
import SurfaceKinetics.Plot
import SurfaceKinetics.Simulation.Run

/-!
# The program

The program reads an input, runs its scenario, prints a summary, and writes the
time series and, if they are asked for, the final height map and two plots.  The
first failure ends it.  It is written for every console.
-/

namespace SurfaceKinetics

/-- What the program is started with beside the options. -/
structure Setting where
  options : Options
  filter : LogFilter
  /-- The seed of a run for which none, or zero, is given. -/
  clockSeed : UInt64

namespace Setting

/-- The seed of the run. -/
def seed (setting : Setting) : UInt64 :=
  match setting.options.seed with
  | some seed => if seed = 0 then setting.clockSeed else seed
  | none => setting.clockSeed

/-- The path of a file in the output directory. -/
def outputPath (setting : Setting) (name : String) : String :=
  let directory := setting.options.output
  if directory.toList.getLast? = some '/' then directory ++ name
  else directory ++ "/" ++ name

/-- How many reports a run with an end time makes unless an interval is given. -/
def usualReports : Float := 100

/-- How often a run with an end time reports. -/
def reportInterval? (setting : Setting) (endTime : Option Float) : Option Float :=
  match setting.options.reportInterval with
  | some interval => some interval
  | none => endTime.map (· / usualReports)

/-- The configuration of the run of an input, if the run has an end. -/
def runConfig? (setting : Setting) (input : SimulationInput Float) :
    Option (RunConfig Float) :=
  let endTime := setting.options.endTime.or input.endTime
  let limit : Option (RunLimit Float) :=
    match endTime, setting.options.maxSteps with
    | some endTime, some maxSteps => some (.timeOrSteps endTime maxSteps)
    | some endTime, none => some (.time endTime)
    | none, some maxSteps => some (.steps maxSteps)
    | none, none => none
  limit.map fun limit =>
    { limit
      seed := setting.seed
      reportInterval := setting.reportInterval? endTime
      metadata := Metadata.put [] "input" setting.options.input }

end Setting

/-! ## The printed summary -/

namespace Summary

/-- The width of process names. -/
def nameWidth : Nat := 20

/-- A text followed by blanks up to a width. -/
def padded (width : Nat) (text : String) : String :=
  text ++ String.ofList (List.replicate (width - text.length) ' ')

/-- The line about the events of a process. -/
def eventLine (name : String) (count : Nat) : String :=
  s!"  {padded nameWidth name} {count}"

/-- The lines about the last sample. -/
def sampleLines (sample : Sample Float) : List String :=
  let six := Quantity.write (α := Float) (.places 6)
  ["Roughness:   " ++ six sample.surface.roughness,
    "RMS:         " ++ six sample.surface.rms,
    "Growth rate: " ++ six sample.growthRate ++ " ML/s"]

/-- The lines about a result. -/
def lines (result : SimulationResult Float) : List String :=
  ["Solver:      " ++ solverName,
    s!"Seed:        {result.seed.toNat}",
    s!"Events:      {result.steps}",
    "Final time:  " ++ Quantity.write .scientific result.time ++ " s",
    "Stopped:     " ++ result.stopReason.message] ++
    List.zipWith eventLine result.processNames result.eventCounts ++
    (match result.lastSample? with
      | some sample => sampleLines sample
      | none => [])

end Summary

/-! ## The course of the program -/

namespace Program

variable {m : Type → Type} [Monad m]

/-- A value, or the failure that its error means. -/
def orFail {ε β : Type}
    (message : String)
    (causes : ε → List String) :
    Except ε β → ExceptT Failure m β
  | .ok value => pure value
  | .error error => throw { message, causes := causes error }

/-- Shows the notes that a filter lets through. -/
def showNotes
    (console : Console m)
    (filter : LogFilter)
    (notes : List Note) :
    ExceptT Failure m Unit :=
  ExceptT.lift ((notes.filter filter.shows).forM console.log)

/-- Takes the value of a computation and shows its notes. -/
def noted {β : Type}
    (console : Console m)
    (filter : LogFilter)
    (computation : Noted β) :
    ExceptT Failure m β := do
  showNotes console filter computation.notes.toList
  pure computation.value

/-- Takes the result of a checked computation, if it has not stopped. -/
def checked {β : Type}
    (console : Console m)
    (filter : LogFilter)
    (computation : Checked β) :
    ExceptT Failure m β := do
  match ← noted console filter computation.run with
  | some value => pure value
  | none => throw .outOfRange

/-- Reads the input. -/
def readInput
    (console : Console m)
    (setting : Setting) :
    ExceptT Failure m (SimulationInput Float) := do
  let path := setting.options.input
  let content ← ExceptT.lift (console.files.read path)
  let reading ←
    checked console setting.filter (SimulationInput.readContent? path content)
  let input ← orFail s!"Failed to read {path}" InputError.chain reading
  noted console setting.filter <|
    Noted.noteIf (!input.warnings.isEmpty) .program .warn
      s!"{input.warnings.length} input line(s) were skipped"
  pure input

/-- The message about a run without an end. -/
def noEnd : String :=
  "No end time: add `time` to the input, or pass --end-time or --max-steps"

/-- The message about a run that came to a stop before its end. -/
def stalled (result : SimulationResult Float) : String :=
  s!"Simulation terminated at step {result.steps} (t = " ++
    Quantity.write .scientific result.time ++ " s): " ++
    result.stopReason.message

/-- Runs the scenario of an input; the bound limits the number of events. -/
def simulate
    (console : Console m)
    (setting : Setting)
    (filter : LogFilter)
    (bound : Nat)
    (input : SimulationInput Float) :
    ExceptT Failure m (SimulationResult Float) := do
  let message (error : SimulationError Float) := [error.message]
  let scenario ← checked console filter (Scenario.ofInput? input)
  let scenario ← orFail "Failed to set up the simulation" message scenario
  noted console filter (Noted.note .program .debug scenario.summary)
  let config ←
    match setting.runConfig? input with
    | some config => pure config
    | none => throw { message := noEnd }
  match ← checked console filter (solveChecked? bound scenario config) with
  | none => throw { message := s!"No end after {bound} events" }
  | some outcome =>
    let result ← orFail "Simulation failed" message outcome
    if result.stopReason.isStalled then
      throw { message := stalled result }
    pure result

/-- Writes an export to a file and notes that. -/
def exportTo
    (console : Console m)
    (filter : LogFilter)
    (path : String)
    (action : m (Except DestinationFault Unit))
    (note : Note) :
    ExceptT Failure m Unit := do
  orFail s!"Cannot write {path}" DestinationFault.chain (← ExceptT.lift action)
  showNotes console filter [note]

/-- Draws a plot to a file and notes that. -/
def plotTo
    (console : Console m)
    (filter : LogFilter)
    (path subject : String)
    (config : PlotConfig)
    (points : List (Float × Float)) :
    ExceptT Failure m Unit := do
  let refuse {β : Type} (message : String) : ExceptT Failure m β :=
    throw { message := s!"Cannot plot {subject}: {message}" }
  match Plot.draw config points with
  | .error fault => refuse fault.message
  | .ok drawing =>
    match ← ExceptT.lift (console.files.write path drawing) with
    | .error fault => refuse fault.message
    | .ok () => showNotes console filter [Plot.writtenNote path]

/-- Writes everything that the options ask for. -/
def writeOutput
    (console : Console m)
    (setting : Setting)
    (filter : LogFilter)
    (result : SimulationResult Float) :
    ExceptT Failure m Unit := do
  let output := setting.options.output
  orFail s!"Cannot create output directory {output}" (fun fault => [fault.message])
    (← ExceptT.lift (console.files.makeDirectories output))
  let table := setting.outputPath "growth.csv"
  let format := { about := some (TimeSeries.About.ofResult result) }
  exportTo console filter table
    (TimeSeries.writeTo console.files table format result none)
    (TimeSeries.writtenNote table)
  if setting.options.heights then
    let map := setting.outputPath "heights.dat"
    exportTo console filter map
      (HeightMap.writeTo console.files map HeightMap.space result.lattice result.time)
      (HeightMap.writtenNote map)
  if setting.options.plot then
    plotTo console filter (setting.outputPath "roughness.svg") "roughness"
      (.roughness "Surface roughness") (Plot.series result Surface.roughness)
    plotTo console filter (setting.outputPath "mean_height.svg") "mean height"
      (.meanHeight "Mean film height") (Plot.series result Surface.meanHeight)

/-- The whole program. -/
def run
    (console : Console m)
    (setting : Setting)
    (bound : Nat) :
    ExceptT Failure m Unit := do
  let input ← readInput console setting
  let filter :=
    if input.debug then setting.filter.withDebug else setting.filter
  let result ← simulate console setting filter bound input
  ExceptT.lift <|
    console.print (String.join ((Summary.lines result).map (· ++ "\n")))
  writeOutput console setting filter result

end Program

end SurfaceKinetics
