import SurfaceKinetics.Simulation.EventTable
import SurfaceKinetics.Simulation.Result
import SurfaceKinetics.Simulation.Scenario

/-!
# Runs

A run executes one event after the other.  In each step a pair is selected with
a probability proportional to its rate; the event happens; the counts and the
table are brought up to date at the affected sites; and time advances by an
exponentially distributed amount.

The random source is asked for one quantity to select the pair, for the partners
of the event, and for one quantity to advance time, in this order.

Sampling looks at a run and never changes it.  A run that is limited by time
alone may be arbitrarily long, so `solve?` is given a bound on its steps.
-/

namespace SurfaceKinetics

/-- The state of a run. -/
structure Run (α : Type) where
  scenario : Scenario α
  lattice : Lattice
  table : EventTable α
  random : RandomSource
  /-- Events so far, per process. -/
  events : List Nat
  /-- The net number of columns added. -/
  netColumns : Int
  time : α
  step : Nat

/-- What a step starts with: nothing can happen, or a pair has been selected. -/
inductive Choice (α : Type) where
  | stalled (reason : StopReason)
  | selected (pair : LivePair α)

namespace Run

variable {α : Type} [Quantity α]

/-- A run before its first event. -/
def start (scenario : Scenario α) (random : RandomSource) : Run α :=
  { scenario
    lattice := scenario.lattice
    table :=
      EventTable.build scenario.conditions scenario.processes scenario.lattice
    random
    events := scenario.processes.map fun _ => 0
    netColumns := 0
    time := Quantity.zero
    step := 0 }

/-! ## Steps -/

/-- The fault of a total rate. -/
def totalFault? (total : α) (step : Nat) : Option NumericalFault :=
  if Quantity.isUndefined total then some (.undefinedTotal step)
  else if Quantity.isFinite total then none
  else some (.infiniteTotal step)

/-- Selects the pair of the next event. -/
def choose (run : Run α) : Except NumericalFault (Choice α × RandomSource) :=
  let total := run.table.totalRate
  match totalFault? total run.step with
  | some fault => throw fault
  | none =>
    if run.table.isEmpty then
      pure (.stalled .noEligibleEvents, run.random)
    else if total ≤ Quantity.zero then
      pure (.stalled .zeroTotalRate, run.random)
    else
      let (share, random) := (RandomSource.uniform (α := α)).run run.random
      match run.table.select (share * total) with
      | none => pure (.stalled .zeroTotalRate, random)
      | some pair => pure (.selected pair, random)

/-- Brings counts and table up to date with an event. -/
def absorb (run : Run α) (event : Event) : Run α :=
  let lattice := event.lattice.refreshMany event.affected
  { run with
    lattice
    table :=
      run.table.update run.scenario.conditions run.scenario.processes lattice
        event.affected }

/-- The time that passes before an event at a total rate. -/
def waitingTime (total : α) : StateM RandomSource α :=
  (fun share => -Quantity.ln share / total) <$> RandomSource.uniformOpen

/-- Executes the event of a selected pair. -/
def execute
    (run : Run α)
    (process : SurfaceProcess α)
    (pair : LivePair α) :
    Except (SimulationError α) (Run α) :=
  let total := run.table.totalRate
  match (process.perform.execute run.lattice pair.site).run run.random with
  | (.error error, _) => throw error
  | (.ok event, random) =>
    let (wait, random) := (waitingTime total).run random
    pure
      { run.absorb event with
        random
        events := run.events.modify pair.process (· + 1)
        netColumns := run.netColumns + process.heightChange
        step := run.step + 1
        time := run.time + wait }

/-- Executes the event of a selected pair in 32 bits, its counts included. -/
def execute?
    (run : Run α)
    (process : SurfaceProcess α)
    (pair : LivePair α) :
    Option (Except (SimulationError α) (Run α)) :=
  match (process.perform.execute? run.lattice pair.site).run run.random with
  | (none, _) => none
  | (some (.error error), _) => some (.error error)
  | (some (.ok event), _) =>
    (event.lattice.refreshMany? event.affected).map fun _ => run.execute process pair

/-- What a step comes to. -/
inductive Advance (α : Type) where
  | stalled (reason : StopReason)
  | moved (run : Run α) (process : SurfaceProcess α) (pair : LivePair α)
  | failed
      (error : SimulationError α)
      (cause : Option (SurfaceProcess α × LivePair α))

/-- What executing the event of a selected pair comes to. -/
def Advance.ofOutcome
    (process : SurfaceProcess α)
    (pair : LivePair α) :
    Except (SimulationError α) (Run α) → Advance α
  | .ok next => .moved next process pair
  | .error error => .failed error (some (process, pair))

/-- One step of a run. -/
def advance (run : Run α) : Advance α :=
  match run.choose with
  | .error fault => .failed (.numerical fault) none
  | .ok (.stalled reason, _) => .stalled reason
  | .ok (.selected pair, random) =>
    match run.scenario.processes[pair.process]? with
    | none => .stalled .zeroTotalRate
    | some process =>
      .ofOutcome process pair ({ run with random }.execute process pair)

/-- One step of a run in 32 bits. -/
def advance? (run : Run α) : Option (Advance α) :=
  match run.choose with
  | .error fault => some (.failed (.numerical fault) none)
  | .ok (.stalled reason, _) => some (.stalled reason)
  | .ok (.selected pair, random) =>
    match run.scenario.processes[pair.process]? with
    | none => some (.stalled .zeroTotalRate)
    | some process =>
      ({ run with random }.execute? process pair).map (Advance.ofOutcome process pair)

/-! ## Samples -/

/-- The state of a run as a sample. -/
def sample (run : Run α) : Sample α :=
  { time := run.time
    step := run.step
    surface := Surface.measure run.lattice
    growthRate := Surface.growthRate run.netColumns run.lattice.size run.time
    events := run.events
    coverage := run.scenario.processes.map fun process =>
      Surface.coverage run.lattice process.species }

/-- The first multiple of an interval after a time. -/
def nextReport (interval now : α) : α :=
  (Quantity.floor (now / interval) + Quantity.ofNat 1) * interval

end Run

/-- A run, the samples taken so far, the next report, and the notes made. -/
structure Progress (α : Type) where
  run : Run α
  /-- The latest sample first. -/
  samples : List (Sample α)
  reportAt : Option α
  notes : Array Note

/-- How a run ends. -/
inductive RunEnd (α : Type) where
  | stopped (progress : Progress α) (reason : StopReason)
  | failed (progress : Progress α) (error : SimulationError α)

namespace Progress

variable {α : Type} [Quantity α]

/-- A run before its first event, with its first sample. -/
def start (run : Run α) (interval : Option α) : Progress α :=
  { run, samples := [run.sample], reportAt := interval, notes := #[] }

def note (progress : Progress α) (level : Level) (text : String) : Progress α :=
  { progress with notes := progress.notes.push ⟨.run, level, text⟩ }

/-- Reports the event of a step. -/
def noteEvent
    (progress : Progress α)
    (process : SurfaceProcess α)
    (pair : LivePair α) :
    Progress α :=
  progress.note .trace
    s!"step {progress.run.step}: {process.name} at site {pair.site}"

/-- What a debug note says about a sample. -/
def sampleText (sample : Sample α) : String :=
  "t = " ++ Quantity.write (.significant 6) sample.time ++
    s!" s, step {sample.step}, roughness " ++
    Quantity.write (.places 4) sample.surface.roughness ++
    ", RMS " ++ Quantity.write (.places 4) sample.surface.rms ++
    ", growth rate " ++ Quantity.write (.significant 4) sample.growthRate ++
    " ML/s"

/-- Takes a sample when the report is due. -/
def report (progress : Progress α) (interval : Option α) : Progress α :=
  match interval, progress.reportAt with
  | some interval, some due =>
    if due ≤ progress.run.time then
      let sample := progress.run.sample
      { progress.note .debug (sampleText sample) with
        samples := sample :: progress.samples
        reportAt := some (Run.nextReport interval progress.run.time) }
    else
      progress
  | _, _ => progress

/-- What a step makes of a progress: one report, if it is due, or the end of the run. -/
def settle
    (progress : Progress α)
    (config : RunConfig α)
    (advance : Run.Advance α) :
    Except (RunEnd α) (Progress α) :=
  let run := progress.run
  match advance with
  | .stalled reason =>
    let time := Quantity.write (.significant 6) run.time
    throw <|
      .stopped
        (progress.note .warn <|
          s!"Simulation stopped at step {run.step} (t = {time} s): " ++
            reason.message)
        reason
  | .failed error none => throw (.failed progress error)
  | .failed error (some (process, pair)) =>
    throw (.failed (progress.noteEvent process pair) error)
  | .moved run process pair =>
    pure <|
      { progress.noteEvent process pair with run }.report config.reportInterval

/-- One step of a run, or the end of the run. -/
def next
    (progress : Progress α)
    (config : RunConfig α) :
    Except (RunEnd α) (Progress α) :=
  let run := progress.run
  match config.limit.stopReason? run.time run.step with
  | some reason => throw (.stopped progress reason)
  | none => progress.settle config run.advance

/-- The lattice of a run that has just been measured, or that will be at its end. -/
def measured? : Except (RunEnd α) (Progress α) → Option Lattice
  | .ok progress =>
    if progress.samples.any fun sample => sample.step = progress.run.step then
      some progress.run.lattice
    else
      none
  | .error (.stopped progress _) => some progress.run.lattice
  | .error (.failed ..) => none

/-- One step of a run in 32 bits, before anything is measured. -/
def unmeasured?
    (progress : Progress α)
    (config : RunConfig α) :
    Option (Except (RunEnd α) (Progress α)) :=
  let run := progress.run
  match config.limit.stopReason? run.time run.step with
  | some reason => some (.error (.stopped progress reason))
  | none => run.advance?.map (progress.settle config)

/-- One step of a run in 32 bits, what is measured after it included. -/
def next?
    (progress : Progress α)
    (config : RunConfig α) :
    Option (Except (RunEnd α) (Progress α)) :=
  (progress.unmeasured? config).filter fun outcome =>
    (measured? outcome).all Surface.fits

/-- Steps until a run ends, or until a number of steps has been made. -/
def loop (config : RunConfig α) : Nat → Progress α → Option (RunEnd α)
  | 0, _ => none
  | bound + 1, progress =>
    match progress.next config with
    | .error runEnd => some runEnd
    | .ok progress => loop config bound progress

/-- Steps in 32 bits until a run ends, or until a number of steps has been made. -/
def loop? (config : RunConfig α) : Nat → Progress α → Option (Option (RunEnd α))
  | 0, _ => some none
  | bound + 1, progress => do
    match ← progress.next? config with
    | .error runEnd => some (some runEnd)
    | .ok progress => loop? config bound progress

/-- The samples in the order of time, the final state being the last one. -/
def finalSamples (progress : Progress α) : List (Sample α) :=
  match progress.samples with
  | [] => [progress.run.sample]
  | latest :: earlier =>
    if latest.step = progress.run.step then
      (latest :: earlier).reverse
    else
      (progress.run.sample :: latest :: earlier).reverse

end Progress

/-- The name of the method in results. -/
def solverName : String := "BKL kinetic Monte Carlo"

namespace Run

variable {α : Type} [Quantity α]

/-- What a result says about its run beside what its configuration says. -/
def metadataOf
    (scenario : Scenario α)
    (config : RunConfig α)
    (reason : StopReason) :
    Metadata :=
  let conditions := scenario.conditions
  ((((((config.metadata.put "solver" solverName).put
    "seed" (toString config.seed.toNat)).put
    "limit" config.limit.name).put
    "stop reason" reason.message).put
    "temperature" (Quantity.plain conditions.temperature)).put
    "pressure" (Quantity.plain conditions.pressure))

/-- The result of a run that has stopped. -/
def resultOf
    (scenario : Scenario α)
    (config : RunConfig α)
    (progress : Progress α)
    (reason : StopReason) :
    SimulationResult α :=
  { samples := progress.finalSamples
    lattice := progress.run.lattice
    processNames := scenario.processNames
    eventCounts := progress.run.events
    time := progress.run.time
    steps := progress.run.step
    stopReason := reason
    seed := config.seed
    metadata := metadataOf scenario config reason }

/-- Reports the start of a run. -/
def noteStart (run : Run α) (seed : UInt64) : Noted Unit := do
  Noted.note .run .info s!"Random seed: {seed.toNat}"
  let total := Quantity.write (.significant 6) run.table.totalRate
  Noted.note .run .info <|
    s!"{run.scenario.processes.length} processes, " ++
      s!"{run.table.size} live events, total rate {total} 1/s"

/-- Reports the end of a run. -/
def noteEnd (run : Run α) (reason : StopReason) : Noted Unit :=
  let time := Quantity.write (.significant 6) run.time
  Noted.note .run .info <|
    s!"Simulation finished after {run.step} events at t = {time} s: " ++
      reason.message

end Run

/-- The first fault of a run before it starts. -/
def runFault? {α : Type} [Quantity α]
    (scenario : Scenario α)
    (config : RunConfig α) :
    Option (SimulationError α) :=
  match config.fault? with
  | some fault => some (.configuration fault)
  | none => scenario.fault?

/-- What the end of a run is reported as, if the run has come to one. -/
def concluded {α : Type} [Quantity α]
    (scenario : Scenario α)
    (config : RunConfig α) :
    Option (RunEnd α) →
      Noted (Option (Except (SimulationError α) (SimulationResult α)))
  | none => pure none
  | some (.failed progress error) => do
    Noted.ofNotes progress.notes
    pure (some (.error error))
  | some (.stopped progress reason) => do
    Noted.ofNotes progress.notes
    progress.run.noteEnd reason
    pure (some (.ok (Run.resultOf scenario config progress reason)))

/-- Runs a scenario; there is no answer when the bound on its steps is too small. -/
def solve? {α : Type} [Quantity α]
    (bound : Nat)
    (scenario : Scenario α)
    (config : RunConfig α) :
    Noted (Option (Except (SimulationError α) (SimulationResult α))) :=
  match runFault? scenario config with
  | some error => pure (some (.error error))
  | none => do
    let run := Run.start scenario (RandomSource.ofSeed config.seed)
    run.noteStart config.seed
    concluded scenario config <|
      (Progress.start run config.reportInterval).loop config bound

/-- Runs a scenario in 32 bits. -/
def solveChecked? {α : Type} [Quantity α]
    (bound : Nat)
    (scenario : Scenario α)
    (config : RunConfig α) :
    Checked (Option (Except (SimulationError α) (SimulationResult α))) :=
  match runFault? scenario config with
  | some error => pure (some (.error error))
  | none => do
    let run := Run.start scenario (RandomSource.ofSeed config.seed)
    run.noteStart config.seed
    let progress := Progress.start run config.reportInterval
    let _ ← Checked.ofOption (Surface.measure? (α := α) run.lattice)
    let runEnd? ← Checked.ofOption (progress.loop? config bound)
    concluded scenario config runEnd?

end SurfaceKinetics
