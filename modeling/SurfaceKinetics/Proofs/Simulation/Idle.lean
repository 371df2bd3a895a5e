import SurfaceKinetics.Proofs.Simulation.Coherence
import SurfaceKinetics.Proofs.Simulation.Insertion
import SurfaceKinetics.Proofs.Simulation.Observation

/-!
# Idle processes

A process is idle when its rate is zero wherever it may happen.  Adding an idle
process to a scenario changes nothing but the numbers of the processes behind it
and the count of its own events, which stays zero: the run makes the same steps,
at the same sites and times, and ends in the same state.  Only the reason of a
run that ends for want of events may change, since the idle process may still be
eligible.
-/

namespace SurfaceKinetics

variable {α : Type}

/-! ## What a run executes -/

/-- An event of a process at a site, with the time and lattice that it leads to. -/
structure Happening (α : Type) where
  process : SurfaceProcess α
  site : Nat
  time : α
  lattice : Lattice

/-- The event of a step, if one happens. -/
def Run.Advance.happening? (advance : Run.Advance α) : Option (Happening α) :=
  advance.moved?.map fun moved =>
    { process := moved.2.1
      site := moved.2.2.site
      time := moved.1.time
      lattice := moved.1.lattice }

section Journals

variable [Quantity α]

/-- The events that the loop executes until the run ends, up to a number of steps. -/
def Progress.journal (config : RunConfig α) :
    Nat → Progress α → List (Happening α)
  | 0, _ => []
  | bound + 1, progress =>
    match progress.next config with
    | .error _ => []
    | .ok later =>
      progress.run.advance.happening?.toList ++ later.journal config bound

/-- The events that the run of a configuration executes. -/
def journal
    (bound : Nat)
    (scenario : Scenario α)
    (config : RunConfig α) :
    List (Happening α) :=
  match runFault? scenario config with
  | some _ => []
  | none =>
    (Progress.start (Run.initial scenario config)
      config.reportInterval).journal config bound

/-- The events of a run without observation. -/
def Run.journal (limit : RunLimit α) : Nat → Run α → List (Happening α)
  | 0, _ => []
  | bound + 1, run =>
    match run.turn limit with
    | .error _ => []
    | .ok next => run.advance.happening?.toList ++ next.journal limit bound

/-- Observation does not change what is executed. -/
theorem Progress.journal_unobserved
    (config : RunConfig α)
    (bound : Nat)
    (progress : Progress α) :
    progress.journal config bound =
      progress.run.journal config.limit bound := by
  induction bound generalizing progress with
  | zero => rfl
  | succ bound induction =>
      have turned := progress.turn_eq config
      rw [journal, Run.journal]
      cases stepped : progress.next config with
      | ok later =>
          rw [stepped] at turned
          rw [turned]
          exact congrArg _ (induction later)
      | error runEnd =>
          rw [stepped] at turned
          rcases turned with ⟨verdict, ended, _⟩
          rw [ended]

/-- The events of a configuration are those of the run without observation. -/
theorem journal_eq
    {config : RunConfig α}
    (faultless : config.fault? = none)
    (bound : Nat)
    (scenario : Scenario α) :
    journal bound scenario config =
      match scenario.fault? with
      | some _ => []
      | none => (Run.initial scenario config).journal config.limit bound := by
  rw [journal, runFault?, faultless]
  cases scenario.fault? with
  | some error => rfl
  | none => exact Progress.journal_unobserved config bound _

end Journals

/-! ## Scenarios with one more process -/

/-- A scenario with a process inserted, on the same lattice. -/
def Scenario.insertProcess
    (scenario : Scenario α)
    (place : Nat)
    (process : SurfaceProcess α) :
    Scenario α :=
  { scenario with processes := scenario.processes.insertIdx place process }

namespace Scenario

variable [Quantity α]

/-- Names that are taken count only if a process bears them. -/
theorem processesFault?_congr
    {taken others : List String}
    {processes : List (SurfaceProcess α)}
    (same :
      ∀ process ∈ processes, process.name ∈ taken ↔ process.name ∈ others) :
    processesFault? taken processes = processesFault? others processes := by
  induction processes generalizing taken others with
  | nil => rfl
  | cons first rest induction =>
      rcases List.forall_mem_cons.mp same with ⟨here, there⟩
      have later :
          processesFault? (first.name :: taken) rest =
            processesFault? (first.name :: others) rest := by
        apply induction
        intro process member
        rw [List.mem_cons, List.mem_cons, there process member]
      rw [processesFault?, processesFault?, later]
      simp only [here]

/-- A process without fault and with a fresh name brings no fault. -/
theorem processesFault?_append_cons
    {taken : List String}
    {process : SurfaceProcess α}
    (faultless : process.fault? = none)
    {before after : List (SurfaceProcess α)}
    (free : process.name ∉ taken)
    (fresh : process.name ∉ (before ++ after).map SurfaceProcess.name) :
    processesFault? taken (before ++ process :: after) =
      processesFault? taken (before ++ after) := by
  induction before generalizing taken with
  | nil =>
      rw [List.nil_append, List.nil_append, processesFault?, faultless]
      dsimp only
      rw [if_neg free]
      apply processesFault?_congr
      intro other member
      have distinct : other.name ≠ process.name := by
        intro equal
        exact fresh (equal ▸ List.mem_map_of_mem member)
      rw [List.mem_cons, or_iff_right distinct]
  | cons first before induction =>
      rw [List.cons_append, List.map_cons, List.mem_cons, not_or] at fresh
      have later :=
        induction (List.not_mem_cons_of_ne_of_not_mem fresh.1 free) fresh.2
      rw [List.cons_append, List.cons_append, processesFault?,
        processesFault?, later]

theorem fault?_insertProcess
    {scenario : Scenario α}
    {process : SurfaceProcess α}
    (faultless : process.fault? = none)
    (fresh : process.name ∉ scenario.processNames)
    {place : Nat}
    (inside : place ≤ scenario.processes.length) :
    (scenario.insertProcess place process).fault? = scenario.fault? := by
  rcases exists_append_of_insertIdx inside with
    ⟨before, after, processesEq, _, inserted⟩
  rw [processNames, processesEq] at fresh
  rw [fault?, fault?, insertProcess, inserted, processesEq,
    processesFault?_append_cons faultless List.not_mem_nil fresh]

end Scenario

/-- The reasons for which a run may stop instead when an idle process is added. -/
inductive StopReason.MayBecome : StopReason → StopReason → Prop where
  | same (reason : StopReason) : MayBecome reason reason
  /-- The added process is eligible where no other one is. -/
  | idle : MayBecome .noEligibleEvents .zeroTotalRate

/-- The rate of a process is zero wherever it may happen. -/
def SurfaceProcess.Idle
    [Quantity α]
    (conditions : Conditions α)
    (process : SurfaceProcess α) : Prop :=
  ∀ lattice site, process.rate conditions lattice site = Quantity.zero

namespace Run

/-- A run of the scenario with one more process, in the same state. -/
def insertProcess
    [Quantity α]
    (run : Run α)
    (place : Nat)
    (process : SurfaceProcess α) :
    Run α :=
  let scenario := run.scenario.insertProcess place process
  { run with
    scenario
    table :=
      EventTable.build scenario.conditions scenario.processes run.lattice
    events := run.events.insertIdx place 0 }

section Insert

variable
    [ExactQuantity α]
    {run : Run α}
    (current : run.Current)
    {place : Nat}
    (inside : place ≤ run.scenario.processes.length)
    {process : SurfaceProcess α}
    (idle : process.Idle run.scenario.conditions)

include current

/-- The wider run has a table with one more row. -/
theorem table_insertProcess :
    (run.insertProcess place process).table =
      run.table.insertRow place
        ((Array.range run.lattice.size).map
          (EventTable.entry run.scenario.conditions run.lattice process)) := by
  rw [Current] at current
  rw [current, EventTable.insertRow, EventTable.build, ← List.map_insertIdx]
  rfl

theorem length_rows_of_current :
    run.table.rows.length = run.scenario.processes.length := by
  rw [Current] at current
  rw [current]
  exact List.length_map _

omit current in
include idle in
/-- The row of an idle process holds zeros. -/
theorem rates_of_idle :
    ∀ rate ∈
      EventTable.rates
        ((Array.range run.lattice.size).map
          (EventTable.entry run.scenario.conditions run.lattice process)),
      rate = 0 := by
  intro rate member
  rcases EventTable.mem_rates_iff.mp member with ⟨site, found⟩
  rw [Array.getElem?_map, Option.map_eq_some_iff] at found
  rcases found with ⟨other, _, entered⟩
  rw [EventTable.entry] at entered
  split at entered
  · cases entered
    rw [idle, Quantity.zero_eq]
  · cases entered

include inside idle

theorem totalRate_insertProcess :
    (run.insertProcess place process).table.totalRate =
      run.table.totalRate := by
  rw [table_insertProcess current]
  rw [← length_rows_of_current current] at inside
  exact EventTable.totalRate_insertRow inside (rates_of_idle idle)

theorem select_insertProcess (target : α) :
    (run.insertProcess place process).table.select target =
      (run.table.select target).map (LivePair.movedOn place) := by
  rw [table_insertProcess current]
  rw [← length_rows_of_current current] at inside
  exact EventTable.select_insertRow inside (rates_of_idle idle) target

/-- The wider run makes the same choice, or stops when the other one does. -/
theorem choose_insertProcess :
    match run.choose with
    | .error fault => (run.insertProcess place process).choose = .error fault
    | .ok (.stalled reason, _) =>
      ∃ wider random,
        (run.insertProcess place process).choose =
            .ok (.stalled wider, random) ∧
          reason.MayBecome wider
    | .ok (.selected pair, random) =>
      (run.insertProcess place process).choose =
        .ok (.selected (pair.movedOn place), random) := by
  have totalEq := totalRate_insertProcess current inside idle
  have selectEq := select_insertProcess current inside idle
  have stepEq : (run.insertProcess place process).step = run.step := rfl
  have randomEq : (run.insertProcess place process).random = run.random := rfl
  simp only [choose, totalEq, selectEq, stepEq, randomEq]
  cases totalFault? run.table.totalRate run.step with
  | some fault => rfl
  | none =>
      by_cases empty : run.table.isEmpty = true
      · rw [if_pos empty]
        by_cases wideEmpty :
            (run.insertProcess place process).table.isEmpty = true
        · rw [if_pos wideEmpty]
          exact ⟨_, _, rfl, .same _⟩
        · have nothing : run.table.totalRate ≤ Quantity.zero :=
            EventTable.totalRate_le_of_isEmpty empty
          rw [if_neg wideEmpty, if_pos nothing]
          exact ⟨_, _, rfl, .idle⟩
      · have wideNonempty :
            ¬ (run.insertProcess place process).table.isEmpty = true := by
          rw [table_insertProcess current]
          rw [← length_rows_of_current current] at inside
          exact fun wideEmpty =>
            empty (EventTable.isEmpty_of_insertRow inside wideEmpty)
        rw [if_neg empty, if_neg wideNonempty]
        by_cases nothing : run.table.totalRate ≤ Quantity.zero
        · rw [if_pos nothing, if_pos nothing]
          exact ⟨_, _, rfl, .same _⟩
        · rw [if_neg nothing, if_neg nothing]
          rcases (RandomSource.uniform (α := α)).run run.random with
            ⟨share, random⟩
          dsimp only
          cases run.table.select (share * run.table.totalRate) with
          | none => exact ⟨_, _, rfl, .same _⟩
          | some pair => rfl

omit current inside idle in
/-- The wider table that is brought up to date is the one built anew. -/
theorem table_absorb_insertProcess
    {perform : Perform}
    {origin : Nat}
    {state : Site}
    {chosen : List Nat}
    (picks : perform.Picks run.lattice origin state chosen) :
    ((run.insertProcess place process).absorb
        (perform.event run.lattice origin chosen)).table =
      ((run.absorb
        (perform.event run.lattice origin chosen)).insertProcess place
          process).table := by
  have wideCurrent : (run.insertProcess place process).Current := rfl
  have widePicks :
      perform.Picks (run.insertProcess place process).lattice origin state
        chosen :=
    picks
  exact wideCurrent.absorb widePicks

/-- The wider run executes the same event. -/
theorem execute_insertProcess
    (random : RandomSource)
    (other : SurfaceProcess α)
    (pair : LivePair α) :
    ({ run.insertProcess place process with random } : Run α).execute other
        (pair.movedOn place) =
      (({ run with random } : Run α).execute other pair).map
        (·.insertProcess place process) := by
  have totalEq := totalRate_insertProcess current inside idle
  have outcome :=
    other.perform.execute_surely (α := α) run.lattice pair.site random
  have latticeEq :
      (run.insertProcess place process).lattice = run.lattice :=
    rfl
  have siteEq : (pair.movedOn place).site = pair.site := rfl
  simp only [execute, totalEq, latticeEq, siteEq]
  rcases performed :
      (other.perform.execute (α := α) run.lattice pair.site).run random with
    ⟨error | event, afterwards⟩
  · rfl
  · rw [performed] at outcome
    rcases outcome with ⟨state, chosen, picks, rfl⟩
    have tableEq :
        ((run.insertProcess place process).absorb
            (other.perform.event run.lattice pair.site chosen)).table =
          ((run.absorb
            (other.perform.event run.lattice pair.site chosen)).insertProcess
              place process).table :=
      table_absorb_insertProcess picks
    have eventsEq :
        (run.events.insertIdx place 0).modify
            (movedOn place pair.process) (· + 1) =
          (run.events.modify pair.process (· + 1)).insertIdx place 0 :=
      modify_insertIdx_movedOn place pair.process run.events 0 _
    rcases (waitingTime run.table.totalRate).run afterwards with ⟨wait, later⟩
    apply congrArg Except.ok
    rw [insertProcess, Run.mk.injEq]
    exact ⟨rfl, rfl, tableEq, rfl, eventsEq, rfl, rfl, rfl⟩

/-- The wider run makes the same step, or it stalls when the other one does. -/
theorem advance_insertProcess :
    match run.advance with
    | .stalled reason =>
      ∃ wider,
        (run.insertProcess place process).advance = .stalled wider ∧
          reason.MayBecome wider
    | .moved next other pair =>
      (run.insertProcess place process).advance =
        .moved (next.insertProcess place process) other (pair.movedOn place)
    | .failed error _ =>
      ∃ cause, (run.insertProcess place process).advance = .failed error cause
    := by
  have choices := choose_insertProcess current inside idle
  rw [advance, advance]
  rcases chosen : run.choose with fault | ⟨reason | pair, random⟩
  · rw [chosen] at choices
    rw [choices]
    exact ⟨none, rfl⟩
  · rw [chosen] at choices
    rcases choices with ⟨wider, other, wideChosen, may⟩
    rw [wideChosen]
    exact ⟨wider, rfl, may⟩
  · rw [chosen] at choices
    have executed := execute_insertProcess current inside idle random
    have foundEq :
        (run.insertProcess place process).scenario.processes[
            (pair.movedOn place).process]? =
          run.scenario.processes[pair.process]? :=
      getElem?_insertIdx_movedOn place pair.process _ process
    rw [choices]
    dsimp only
    rw [foundEq]
    cases run.scenario.processes[pair.process]? with
    | none => exact ⟨_, rfl, .same _⟩
    | some other =>
        dsimp only
        rw [executed other pair]
        cases ({ run with random } : Run α).execute other pair with
        | error error => exact ⟨_, rfl⟩
        | ok next => rfl

/-- The wider run makes the same turn, or it ends when the other one does. -/
theorem turn_insertProcess (limit : RunLimit α) :
    match run.turn limit with
    | .error (.ok reason) =>
      ∃ wider,
        (run.insertProcess place process).turn limit = .error (.ok wider) ∧
          reason.MayBecome wider
    | .error (.error error) =>
      (run.insertProcess place process).turn limit = .error (.error error)
    | .ok next =>
      (run.insertProcess place process).turn limit =
        .ok (next.insertProcess place process) := by
  have advanced := advance_insertProcess current inside idle
  have stoppedEq :
      limit.stopReason? (run.insertProcess place process).time
          (run.insertProcess place process).step =
        limit.stopReason? run.time run.step :=
    rfl
  rw [turn, turn, stoppedEq]
  cases limit.stopReason? run.time run.step with
  | some reason => exact ⟨reason, rfl, .same reason⟩
  | none =>
      cases stepped : run.advance with
      | stalled reason =>
          rw [stepped] at advanced
          rcases advanced with ⟨wider, stalled, may⟩
          rw [stalled]
          exact ⟨wider, rfl, may⟩
      | moved next other pair =>
          rw [stepped] at advanced
          rw [advanced]
      | failed error cause =>
          rw [stepped] at advanced
          rcases advanced with ⟨cause, failed⟩
          rw [failed]

theorem happening?_insertProcess :
    (run.insertProcess place process).advance.happening? =
      run.advance.happening? := by
  have advanced := advance_insertProcess current inside idle
  cases stepped : run.advance with
  | stalled reason =>
      rw [stepped] at advanced
      rcases advanced with ⟨wider, stalled, _⟩
      rw [stalled]
      rfl
  | moved next other pair =>
      rw [stepped] at advanced
      rw [advanced]
      rfl
  | failed error cause =>
      rw [stepped] at advanced
      rcases advanced with ⟨cause, failed⟩
      rw [failed]
      rfl

/-- The wider run executes the same events and ends in the same state. -/
theorem drive_insertProcess (limit : RunLimit α) (bound : Nat) :
    (run.insertProcess place process).journal limit bound =
        run.journal limit bound ∧
      match run.drive limit bound with
      | none => (run.insertProcess place process).drive limit bound = none
      | some (final, .ok reason) =>
        ∃ wider,
          (run.insertProcess place process).drive limit bound =
              some (final.insertProcess place process, .ok wider) ∧
            reason.MayBecome wider
      | some (final, .error error) =>
        (run.insertProcess place process).drive limit bound =
          some (final.insertProcess place process, .error error) := by
  induction bound generalizing run with
  | zero => exact ⟨rfl, rfl⟩
  | succ bound induction =>
      have happened := happening?_insertProcess current inside idle
      have turned := turn_insertProcess current inside idle limit
      rw [journal, journal, drive, drive]
      rcases here : run.turn limit with (error | reason) | next
      · rw [here] at turned
        rw [turned]
        exact ⟨rfl, rfl⟩
      · rw [here] at turned
        rcases turned with ⟨wider, ended, may⟩
        rw [ended]
        exact ⟨rfl, wider, rfl, may⟩
      · rw [here] at turned
        rcases turn_ok here with ⟨_, other, pair, moved⟩
        rcases advance_moved moved with ⟨state, chosen, moves⟩
        rw [← moves.scenario_eq] at inside idle
        rcases induction (moves.current current) inside idle with
          ⟨sameEvents, sameEnd⟩
        rw [turned, happened]
        exact ⟨congrArg _ sameEvents, sameEnd⟩

end Insert

/-- A run of the scenario with one more process starts in the same state. -/
theorem initial_insertProcess
    [Quantity α]
    (scenario : Scenario α)
    (place : Nat)
    (process : SurfaceProcess α)
    (config : RunConfig α) :
    initial (scenario.insertProcess place process) config =
      (initial scenario config).insertProcess place process := by
  have eventsEq :
      ((scenario.processes.insertIdx place process).map fun _ => 0) =
        (scenario.processes.map fun _ => 0).insertIdx place 0 :=
    List.map_insertIdx _ _ _ _
  rw [initial, start, insertProcess, Run.mk.injEq]
  exact ⟨rfl, rfl, rfl, rfl, eventsEq, rfl, rfl, rfl⟩

end Run

/--
A process that is idle changes nothing of a run but its own place among the
counts of events, which is zero; and where the other processes are no longer
eligible, the run may be said to stop for want of rates rather than of events.
-/
theorem idle_process_inert
    [ExactQuantity α]
    {scenario : Scenario α}
    {process : SurfaceProcess α}
    (faultless : process.fault? = none)
    (fresh : process.name ∉ scenario.processNames)
    (idle : process.Idle scenario.conditions)
    {place : Nat}
    (inside : place ≤ scenario.processes.length)
    (config : RunConfig α)
    (bound : Nat) :
    journal bound (scenario.insertProcess place process) config =
        journal bound scenario config ∧
      match outcome? bound scenario config with
      | none =>
        outcome? bound (scenario.insertProcess place process) config = none
      | some (.error error) =>
        outcome? bound (scenario.insertProcess place process) config =
          some (.error error)
      | some (.ok outcome) =>
        ∃ reason,
          outcome? bound (scenario.insertProcess place process) config =
              some
                (.ok
                  { outcome with
                    eventCounts := outcome.eventCounts.insertIdx place 0
                    stopReason := reason }) ∧
            outcome.stopReason.MayBecome reason := by
  have faultEq :
      (scenario.insertProcess place process).fault? = scenario.fault? :=
    Scenario.fault?_insertProcess faultless fresh inside
  cases configured : config.fault? with
  | some fault =>
      rw [journal, journal, runFault?, runFault?, configured,
        outcome?_of_fault? configured, outcome?_of_fault? configured]
      exact ⟨rfl, rfl⟩
  | none =>
      rw [journal_eq configured, journal_eq configured, outcome?_eq configured,
        outcome?_eq configured, faultEq]
      cases scenario.fault? with
      | some error => exact ⟨rfl, rfl⟩
      | none =>
          have current : (Run.initial scenario config).Current := rfl
          rcases Run.drive_insertProcess current inside idle config.limit
            bound with ⟨sameEvents, sameEnd⟩
          rw [← Run.initial_insertProcess] at sameEvents sameEnd
          refine ⟨sameEvents, ?_⟩
          rcases ended :
              (Run.initial scenario config).drive config.limit bound with
            _ | ⟨final, error | reason⟩
          · rw [ended] at sameEnd
            rw [sameEnd]
            rfl
          · rw [ended] at sameEnd
            rw [sameEnd]
            rfl
          · rw [ended] at sameEnd
            rcases sameEnd with ⟨wider, wideEnded, may⟩
            rw [wideEnded]
            exact ⟨wider, rfl, may⟩

/-- Oxygen that covers four sites and then has nowhere to go. -/
def saturatingText : String :=
  "build_lattice SimpleCubic 2 2 0 Cu\n" ++
    "nspecies 2\n" ++
    "Cu 63.546\n" ++
    "O 15.999\n" ++
    "nprocesses 1\n" ++
    "O + * -> O*, 1.0\n" ++
    "temperature 500\n"

/-- Oxygen that could leave its site, but never does. -/
def boundOxygen : SurfaceProcess ℚ :=
  { descriptor :=
      { name := "Desorption_O"
        category := .desorption
        reaction := "O* -> O + *"
        reactants := ["O*"]
        products := ["O", "*"]
        species := ["O"]
        energetics := { values := [0], options := [] }
        stoichiometry := none }
    species := "O"
    mode := .label
    rule := .occupiedBy "O" 0
    rateLaw := .constant 0
    perform := .uncover "O" 1 }

def saturatingConfig : RunConfig ℚ := { limit := .steps 9, seed := 5 }

theorem idle_process_inert_saturating :
    ∃ (scenario : Scenario ℚ) (outcome : Outcome ℚ),
      Scenario.ofText? saturatingText = some scenario ∧
        boundOxygen.fault? = none ∧
          boundOxygen.name ∉ scenario.processNames ∧
            boundOxygen.Idle scenario.conditions ∧
              1 ≤ scenario.processes.length ∧
                outcome? 5 scenario saturatingConfig = some (.ok outcome) ∧
                  (outcome.steps = 4 ∧
                    outcome.stopReason = .noEligibleEvents) ∧
                    journal 5 (scenario.insertProcess 1 boundOxygen)
                        saturatingConfig =
                      journal 5 scenario saturatingConfig ∧
                      ∃ reason,
                        outcome? 5 (scenario.insertProcess 1 boundOxygen)
                            saturatingConfig =
                          some
                            (.ok
                              { outcome with
                                eventCounts := outcome.eventCounts.insertIdx 1 0
                                stopReason := reason }) := by
  have ahead :
      ((Scenario.ofText? (α := ℚ) saturatingText).any fun scenario =>
        (scenario.processNames.all (boundOxygen.name ≠ ·) &&
            scenario.processes.length = 1) &&
          (outcome? 5 scenario saturatingConfig).any fun ended =>
            ended.toOption.any fun outcome =>
              outcome.steps = 4 && outcome.stopReason = .noEligibleEvents) =
        true := by
    decide +kernel
  rcases (Option.any_eq_true _ _).mp ahead with ⟨scenario, found, checked⟩
  rcases Bool.and_eq_true_iff.mp checked with ⟨admitted, runs⟩
  rcases Bool.and_eq_true_iff.mp admitted with ⟨names, length⟩
  rcases (Option.any_eq_true _ _).mp runs with ⟨ended, endedFound, succeeds⟩
  rcases (Option.any_eq_true _ _).mp succeeds with
    ⟨outcome, extracted, outcomeChecked⟩
  rcases Bool.and_eq_true_iff.mp outcomeChecked with ⟨steps, reason⟩
  have solved : outcome? 5 scenario saturatingConfig = some (.ok outcome) := by
    cases ended with
    | error error => cases extracted
    | ok other =>
        cases extracted
        exact endedFound
  have faultless : boundOxygen.fault? = none :=
    Option.isNone_iff_eq_none.mp (by decide +kernel)
  have fresh : boundOxygen.name ∉ scenario.processNames :=
    fun member => of_decide_eq_true (List.all_eq_true.mp names _ member) rfl
  have idle : boundOxygen.Idle scenario.conditions := fun _ _ => rfl
  have inside : 1 ≤ scenario.processes.length :=
    Nat.le_of_eq (of_decide_eq_true length).symm
  have inert :=
    idle_process_inert faultless fresh idle inside saturatingConfig 5
  rw [solved] at inert
  rcases inert with ⟨sameEvents, reached, wide, _⟩
  exact
    ⟨scenario, outcome, found, faultless, fresh, idle, inside, solved,
      ⟨of_decide_eq_true steps, of_decide_eq_true reason⟩, sameEvents, reached,
      wide⟩

end SurfaceKinetics
