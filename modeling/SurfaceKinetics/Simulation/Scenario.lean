import SurfaceKinetics.Input.Reading
import SurfaceKinetics.SurfaceProcess.Binding

/-!
# Scenarios

A scenario is what is simulated: a lattice, the processes on it, and the
conditions.  Its lattice is coordinated by height when a process is in height
mode, and by occupancy otherwise.
-/

namespace SurfaceKinetics

structure Scenario (α : Type) where
  lattice : Lattice
  processes : List (SurfaceProcess α)
  conditions : Conditions α

namespace Scenario

variable {α : Type}

/-- How the lattice of some processes is coordinated. -/
def coordinationOf (processes : List (SurfaceProcess α)) : Coordination :=
  if processes.any fun process => process.mode = .height then
    .height
  else
    .occupancy

/-- A scenario whose lattice is coordinated for its processes. -/
def assemble
    (lattice : Lattice)
    (processes : List (SurfaceProcess α))
    (conditions : Conditions α) :
    Scenario α :=
  { lattice := lattice.withCoordination (coordinationOf processes)
    processes
    conditions }

/-- A scenario whose lattice is coordinated in 32 bits. -/
def assemble?
    (lattice : Lattice)
    (processes : List (SurfaceProcess α))
    (conditions : Conditions α) :
    Option (Scenario α) :=
  (lattice.withCoordination? (coordinationOf processes)).map fun lattice =>
    { lattice, processes, conditions }

def processNames (scenario : Scenario α) : List String :=
  scenario.processes.map SurfaceProcess.name

/-- The place of the process with a name. -/
def processIndex? (scenario : Scenario α) (name : String) : Option Nat :=
  scenario.processes.findIdx? fun process => process.name = name

variable [Quantity α]

/-- The first fault of a list of processes, some names being taken already. -/
def processesFault? :
    List String → List (SurfaceProcess α) → Option (SimulationError α)
  | _, [] => none
  | taken, process :: rest =>
    match process.fault? with
    | some fault => some (.process fault)
    | none =>
      if process.name ∈ taken then
        some (.configuration (.duplicateProcess process.name))
      else
        processesFault? (process.name :: taken) rest

/-- The first fault of a scenario; the conditions count first. -/
def fault? (scenario : Scenario α) : Option (SimulationError α) :=
  match scenario.conditions.fault? with
  | some fault => some (.configuration fault)
  | none => processesFault? [] scenario.processes

/-- Binds the processes of a registry; those that cannot be bound are reported. -/
def bindAll
    (registry : Registry α)
    (growth : List String) :
    List (Descriptor α) → Noted (List (SurfaceProcess α))
  | [] => pure []
  | descriptor :: rest => do
    match ← SurfaceProcess.bind descriptor registry growth with
    | .ok process => do
      let others ← bindAll registry growth rest
      pure (process :: others)
    | .error fault => do
      let message := (SimulationError.process fault).message
      Noted.note .scenario .error s!"{message} ({descriptor.name} is skipped)"
      bindAll registry growth rest

/-- The pressure of an input; zero when there is none. -/
def pressureOf (input : SimulationInput α) : Noted α :=
  match input.pressure with
  | some pressure => pure pressure
  | none => do
    Noted.note .scenario .warn "No pressure defined, using 0 Pa"
    pure Quantity.zero

/-- Reports which species grow the film. -/
def noteGrowth (growth : List String) : Noted Unit :=
  if growth.isEmpty then
    Noted.note .scenario .info
      "No growth species: every process acts on surface labels"
  else
    Noted.note .scenario .info ("Growth species: " ++ ", ".intercalate growth)

/-- The processes of an input that can be bound. -/
def boundProcesses (input : SimulationInput α) : Noted (List (SurfaceProcess α)) := do
  let growth := input.growthSpecies
  noteGrowth growth
  let processes ← bindAll input.registry growth input.registry.processes
  Noted.noteIf processes.isEmpty .scenario .warn
    "No process could be bound; the run will stop immediately"
  pure processes

/-- A scenario without faults. -/
def checked (scenario : Scenario α) : Except (SimulationError α) (Scenario α) :=
  match scenario.fault? with
  | some error => .error error
  | none => .ok scenario

/-- The scenario of an input on a lattice that has been built. -/
def onLattice
    (input : SimulationInput α)
    (lattice : Lattice)
    (conditions : Conditions α) :
    Noted (Except (SimulationError α) (Scenario α)) := do
  let processes ← boundProcesses input
  pure (assemble lattice processes conditions).checked

/-- Everything that an input defines; what is missing is looked for first. -/
def ofInput (input : SimulationInput α) :
    Noted (Except (SimulationError α) (Scenario α)) :=
  match input.lattice, input.temperature with
  | none, _ => pure (.error (.configuration .noLattice))
  | some _, none => pure (.error (.configuration .noTemperature))
  | some config, some temperature => do
    let pressure ← pressureOf input
    match Lattice.build config with
    | .error fault => pure (.error (.lattice fault))
    | .ok lattice => do
      let lattice ← lattice
      onLattice input lattice { temperature, pressure }

/-- Everything that an input defines, its lattice built in 32 bits. -/
def ofInput? (input : SimulationInput α) :
    Checked (Except (SimulationError α) (Scenario α)) :=
  match input.lattice, input.temperature with
  | none, _ => pure (.error (.configuration .noLattice))
  | some _, none => pure (.error (.configuration .noTemperature))
  | some config, some temperature => do
    let pressure ← (pressureOf input : Noted α)
    match Lattice.build? config with
    | .error fault => pure (.error (.lattice fault))
    | .ok lattice => do
      let lattice ← lattice
      let processes ← (boundProcesses input : Noted (List (SurfaceProcess α)))
      let conditions : Conditions α := { temperature, pressure }
      let scenario ← Checked.ofOption (assemble? lattice processes conditions)
      pure scenario.checked

/-- The text of a scenario in debug notes. -/
def summary (scenario : Scenario α) : String :=
  let config := scenario.lattice.config
  let temperature := Quantity.write .listed scenario.conditions.temperature
  let pressure := Quantity.write .listed scenario.conditions.pressure
  "Scenario \x7b lattice type: " ++ config.kind.label ++
    s!", size: ({config.columns}, {config.rows}), coordination: " ++
    scenario.lattice.coordination.name ++
    ", processes: " ++ Quoted.encodeList scenario.processNames ++
    ", conditions: Conditions \x7b temperature: " ++ temperature ++
    ", pressure: " ++ pressure ++ " \x7d \x7d"

end Scenario

end SurfaceKinetics
