import SurfaceKinetics.Proofs.Simulation.Origin
import SurfaceKinetics.Proofs.Simulation.Solving

/-!
# Runs do not depend on who watches

A run can be driven without samples, notes and reports: only the limit is looked
at between two events.  The loop of a configuration drives its run in just this
way, so what a run does is settled by its scenario, its seed and its limit; and
the limit settles only where it ends.  Two configurations with one seed therefore
pass through the same states, as far as both of them go.
-/

namespace SurfaceKinetics

variable {α : Type} [Quantity α]

/-- How a run ends: with an error or for a reason to stop. -/
abbrev Verdict (α : Type) := Except (SimulationError α) StopReason

/-! ## Looser limits -/

/-- A limit lets pass whatever another one lets pass. -/
def RunLimit.LooserThan (looser limit : RunLimit α) : Prop :=
  ∀ now step,
    limit.stopReason? now step = none → looser.stopReason? now step = none

theorem RunLimit.looserThan_steps {fewer more : Nat} (le : fewer ≤ more) :
    (RunLimit.steps more : RunLimit α).LooserThan (.steps fewer) := by
  have openIff :
      ∀ (limit : Nat) (now : α) (step : Nat),
        (RunLimit.steps limit : RunLimit α).stopReason? now step = none ↔
          step < limit := by
    intro limit now step
    simp [stopReason?, timeIsUp, stepsAreUp, endTime?, maxSteps?]
  intro now step passed
  rw [openIff] at passed ⊢
  exact Nat.lt_of_lt_of_le passed le

/-- The reasons of a limit are no stalls. -/
theorem RunLimit.not_isStalled_of_stopReason?
    {limit : RunLimit α}
    {now : α}
    {step : Nat}
    {reason : StopReason}
    (reached : limit.stopReason? now step = some reason) :
    reason.isStalled = false := by
  rw [stopReason?] at reached
  split at reached
  · cases reached
    rfl
  · split at reached
    · cases reached
      rfl
    · cases reached

/-! ## Runs without observation -/

namespace Run

/-- The run after one more event, or the verdict on a run that ends here. -/
def turn (limit : RunLimit α) (run : Run α) : Except (Verdict α) (Run α) :=
  match limit.stopReason? run.time run.step with
  | some reason => .error (.ok reason)
  | none =>
    match run.advance with
    | .stalled reason => .error (.ok reason)
    | .failed error _ => .error (.error error)
    | .moved next _ _ => .ok next

/-- Turns until a run ends, or until a number of turns has been made. -/
def drive (limit : RunLimit α) : Nat → Run α → Option (Run α × Verdict α)
  | 0, _ => none
  | bound + 1, run =>
    match run.turn limit with
    | .error verdict => some (run, verdict)
    | .ok next => next.drive limit bound

/-- A turn that does not end a run executes an event below the limit. -/
theorem turn_ok
    {limit : RunLimit α}
    {run next : Run α}
    (turned : run.turn limit = .ok next) :
    limit.stopReason? run.time run.step = none ∧
      ∃ process pair, run.advance = .moved next process pair := by
  rw [turn] at turned
  split at turned
  · cases turned
  · next unlimited =>
      split at turned
      · cases turned
      · cases turned
      · next process pair moved =>
          cases turned
          exact ⟨unlimited, process, pair, moved⟩

/-- The states of a run under a limit. -/
inductive Passes (limit : RunLimit α) (first : Run α) : Run α → Prop where
  | refl : Passes limit first first
  | turned
      {run next : Run α}
      (earlier : Passes limit first run)
      (step : run.turn limit = .ok next) :
      Passes limit first next

/-! ### States by the number of events -/

theorem after_succ_of_moved
    {count : Nat}
    {first run next : Run α}
    {process : SurfaceProcess α}
    {pair : LivePair α}
    (found : first.after count = some run)
    (moved : run.advance = .moved next process pair) :
    first.after (count + 1) = some next := by
  induction count generalizing first with
  | zero =>
      cases found
      rw [after, moved]
      rfl
  | succ count induction =>
      rw [after] at found
      rw [after]
      split at found
      · exact induction found
      · cases found

/-- A state of a run is settled by the number of events before it. -/
theorem Passes.after_eq
    {limit : RunLimit α}
    {first run : Run α}
    (passes : Passes limit first run) :
    ∃ count, first.after count = some run ∧ run.step = first.step + count := by
  have counted : ∃ count, first.after count = some run := by
    induction passes with
    | refl => exact ⟨0, rfl⟩
    | turned earlier step induction =>
        rcases induction with ⟨count, found⟩
        rcases turn_ok step with ⟨_, process, pair, moved⟩
        exact ⟨count + 1, after_succ_of_moved found moved⟩
  rcases counted with ⟨count, found⟩
  exact ⟨count, found, (reaches_of_after found).2⟩

theorem Passes.begun
    {limit : RunLimit α}
    {first run : Run α}
    (passes : Passes limit first run) :
    first.step ≤ run.step := by
  rcases passes.after_eq with ⟨count, _, step⟩
  exact step ▸ Nat.le_add_right first.step count

/-- Under whatever limits, equally many events lead to the same state. -/
theorem Passes.eq_of_step_eq
    {limit other : RunLimit α}
    {first run same : Run α}
    (passes : Passes limit first run)
    (passesOther : Passes other first same)
    (stepEq : same.step = run.step) :
    same = run := by
  rcases passes.after_eq with ⟨count, found, step⟩
  rcases passesOther.after_eq with ⟨otherCount, otherFound, otherStep⟩
  have counts : otherCount = count := by omega
  rw [counts, found] at otherFound
  exact (Option.some.inj otherFound).symm

/-- A run passes through every number of events up to its last. -/
theorem Passes.exists_step_eq
    {limit : RunLimit α}
    {first later : Run α}
    (passes : Passes limit first later)
    {step : Nat}
    (begun : first.step ≤ step)
    (notBeyond : step ≤ later.step) :
    ∃ run, Passes limit first run ∧ run.step = step := by
  induction passes with
  | refl => exact ⟨first, .refl, Nat.le_antisymm begun notBeyond⟩
  | turned earlier turned induction =>
      rcases turn_ok turned with ⟨_, process, pair, moved⟩
      rcases advance_moved moved with ⟨state, chosen, moves⟩
      rcases Nat.lt_or_eq_of_le notBeyond with before | last
      · rw [moves.step_eq] at before
        exact induction (Nat.le_of_lt_succ before)
      · exact ⟨_, earlier.turned turned, last.symm⟩

/-- The state in which a driven run ends is one of its states. -/
theorem Passes.of_drive
    {limit : RunLimit α}
    {bound : Nat}
    {first run final : Run α}
    {verdict : Verdict α}
    (passes : Passes limit first run)
    (ended : run.drive limit bound = some (final, verdict)) :
    Passes limit first final := by
  induction bound generalizing run with
  | zero => cases ended
  | succ bound induction =>
      rw [drive] at ended
      split at ended
      · cases ended
        exact passes
      · next turned => exact induction (passes.turned turned) ended

/-! ### Looser limits -/

section Looser

variable
    {limit looser : RunLimit α}
    (loose : looser.LooserThan limit)

include loose

theorem turn_of_looser
    {run next : Run α}
    (turned : run.turn limit = .ok next) :
    run.turn looser = .ok next := by
  rcases turn_ok turned with ⟨passed, process, pair, moved⟩
  rw [turn, loose _ _ passed, moved]

/-- What ends a run before its limit ends it under a looser limit. -/
theorem turn_error_of_looser
    {run : Run α}
    {verdict : Verdict α}
    (ended : run.turn limit = .error verdict)
    (beforeLimit :
      ∀ reason, verdict = .ok reason → reason.isStalled = true) :
    run.turn looser = .error verdict := by
  rw [turn] at ended ⊢
  cases passed : limit.stopReason? run.time run.step with
  | some reason =>
      -- A limit that is reached is no stall, so it did not end this run.
      rw [passed] at ended
      cases ended
      have stalled := beforeLimit reason rfl
      rw [RunLimit.not_isStalled_of_stopReason? passed] at stalled
      cases stalled
  | none =>
      rw [passed] at ended
      rw [loose _ _ passed]
      exact ended

/-- A looser limit lets a run pass through the same states. -/
theorem Passes.of_looser
    {first run : Run α}
    (passes : Passes limit first run) :
    Passes looser first run := by
  induction passes with
  | refl => exact .refl
  | turned earlier step induction =>
      exact induction.turned (turn_of_looser loose step)

/-- A run that ends for want of events or with an error does so anyway. -/
theorem drive_of_looser
    {bound : Nat}
    {run final : Run α}
    {verdict : Verdict α}
    (ended : run.drive limit bound = some (final, verdict))
    (beforeLimit :
      ∀ reason, verdict = .ok reason → reason.isStalled = true) :
    run.drive looser bound = some (final, verdict) := by
  induction bound generalizing run with
  | zero => cases ended
  | succ bound induction =>
      rw [drive] at ended ⊢
      cases turned : run.turn limit with
      | ok next =>
          rw [turned] at ended
          rw [turn_of_looser loose turned]
          exact induction ended
      | error reached =>
          rw [turned] at ended
          cases ended
          rw [turn_error_of_looser loose turned beforeLimit]

end Looser

end Run

/-! ## Observation -/

/-- The end of a run without samples and notes. -/
def RunEnd.unobserved : RunEnd α → Run α × Verdict α
  | stopped progress reason => (progress.run, .ok reason)
  | failed progress error => (progress.run, .error error)

namespace Progress

/-- A step of the loop makes a turn of its run. -/
theorem turn_eq (progress : Progress α) (config : RunConfig α) :
    match progress.next config with
    | .ok later => progress.run.turn config.limit = .ok later.run
    | .error runEnd =>
      ∃ verdict,
        progress.run.turn config.limit = .error verdict ∧
          runEnd.unobserved = (progress.run, verdict) := by
  simp only [next, Run.turn]
  cases config.limit.stopReason? progress.run.time progress.run.step with
  | some reason => exact ⟨_, rfl, rfl⟩
  | none =>
      cases progress.run.advance with
      | stalled reason => exact ⟨_, rfl, rfl⟩
      | failed error cause => cases cause <;> exact ⟨_, rfl, rfl⟩
      | moved run process pair =>
          show Except.ok run = Except.ok (Progress.report _ _).run
          rw [run_report]

/-- Observation does not change how the loop ends. -/
theorem loop_unobserved
    (config : RunConfig α)
    (bound : Nat)
    (progress : Progress α) :
    (progress.loop config bound).map RunEnd.unobserved =
      progress.run.drive config.limit bound := by
  induction bound generalizing progress with
  | zero => rfl
  | succ bound induction =>
      have turned := progress.turn_eq config
      rw [loop, Run.drive]
      cases stepped : progress.next config with
      | ok later =>
          rw [stepped] at turned
          rw [turned]
          exact induction later
      | error runEnd =>
          rw [stepped] at turned
          rcases turned with ⟨verdict, ended, seen⟩
          rw [ended]
          exact congrArg some seen

end Progress

/-- The states through which the loop of a configuration takes a run. -/
def RunConfig.Visits
    (config : RunConfig α)
    (scenario : Scenario α)
    (run : Run α) : Prop :=
  ∃ progress,
    Progress.Reaches config
        (Progress.start (Run.initial scenario config) config.reportInterval)
        progress ∧
      progress.run = run

/-- They are those of the run without observation. -/
theorem RunConfig.visits_iff
    {config : RunConfig α}
    {scenario : Scenario α}
    {run : Run α} :
    config.Visits scenario run ↔
      Run.Passes config.limit (Run.initial scenario config) run := by
  constructor
  · rintro ⟨progress, reached, rfl⟩
    induction reached with
    | refl => exact .refl
    | @next progress later earlier step induction =>
        have turned := progress.turn_eq config
        rw [step] at turned
        exact induction.turned turned
  · intro passes
    induction passes with
    | refl => exact ⟨_, .refl, rfl⟩
    | @turned run next earlier step induction =>
        rcases induction with ⟨progress, reached, rfl⟩
        have turned := progress.turn_eq config
        cases stepped : progress.next config with
        | error runEnd =>
            rw [stepped, step] at turned
            rcases turned with ⟨_, ended, _⟩
            cases ended
        | ok later =>
            rw [stepped, step] at turned
            exact ⟨later, reached.next stepped, (Except.ok.inj turned).symm⟩

/-! ## Outcomes -/

/-- What a run has come to, apart from its samples, notes and metadata. -/
structure Outcome (α : Type) where
  lattice : Lattice
  eventCounts : List Nat
  time : α
  steps : Nat
  stopReason : StopReason

/-- The outcome of a run that stops for a reason. -/
def Run.outcome (run : Run α) (reason : StopReason) : Outcome α :=
  { lattice := run.lattice
    eventCounts := run.events
    time := run.time
    steps := run.step
    stopReason := reason }

/-- The outcome that a result reports. -/
def SimulationResult.outcome (result : SimulationResult α) : Outcome α :=
  { lattice := result.lattice
    eventCounts := result.eventCounts
    time := result.time
    steps := result.steps
    stopReason := result.stopReason }

/-- The outcome or the error of a run, if its steps fit into a bound. -/
def outcome?
    (bound : Nat)
    (scenario : Scenario α)
    (config : RunConfig α) :
    Option (Except (SimulationError α) (Outcome α)) :=
  (solve? bound scenario config).value.map fun solved =>
    solved.map SimulationResult.outcome

/-- Outcomes are those of the run without observation. -/
theorem outcome?_eq
    {config : RunConfig α}
    (faultless : config.fault? = none)
    (bound : Nat)
    (scenario : Scenario α) :
    outcome? bound scenario config =
      match scenario.fault? with
      | some error => some (.error error)
      | none =>
        ((Run.initial scenario config).drive config.limit bound).map
          fun ended => ended.2.map ended.1.outcome := by
  have faultEq : runFault? scenario config = scenario.fault? := by
    rw [runFault?, faultless]
  rw [outcome?, solve?, faultEq]
  cases scenario.fault? with
  | some error => rfl
  | none =>
      have driven :
          (Progress.loop config bound
              (Progress.start (Run.initial scenario config)
                config.reportInterval)).map RunEnd.unobserved =
            (Run.initial scenario config).drive config.limit bound :=
        Progress.loop_unobserved config bound _
      rw [Run.initial] at driven
      simp only [Noted.value_bind, Run.initial, ← driven]
      generalize Progress.loop config bound (Progress.start _ _) = ended
      rcases ended with _ | (⟨final, reason⟩ | ⟨final, error⟩) <;> rfl

/-- A configuration with a fault has the fault as its outcome. -/
theorem outcome?_of_fault?
    {config : RunConfig α}
    {fault : ConfigurationFault α}
    (faulty : config.fault? = some fault)
    (bound : Nat)
    (scenario : Scenario α) :
    outcome? bound scenario config = some (.error (.configuration fault)) := by
  rw [outcome?, solve?, runFault?, faulty]
  rfl

section Outcomes

variable
    {scenario : Scenario α}
    {first second : RunConfig α}
    (firstFaultless : first.fault? = none)

include firstFaultless

/-- The outcome of a run shows one of its states. -/
theorem visits_of_outcome?
    {bound : Nat}
    {outcome : Outcome α}
    (ended : outcome? bound scenario first = some (.ok outcome)) :
    ∃ run,
      first.Visits scenario run ∧
        outcome = run.outcome outcome.stopReason := by
  rw [outcome?_eq firstFaultless] at ended
  split at ended
  · cases ended
  · rcases Option.map_eq_some_iff.mp ended with
      ⟨⟨run, verdict⟩, driven, outcomeEq⟩
    cases verdict with
    | error error => cases outcomeEq
    | ok reason =>
        cases outcomeEq
        refine ⟨run, ?_, rfl⟩
        exact RunConfig.visits_iff.mpr (Run.Passes.refl.of_drive driven)

variable
    (secondFaultless : second.fault? = none)
    (initialEq : Run.initial scenario first = Run.initial scenario second)

include secondFaultless initialEq

/-- Runs with equal beginnings and limits have equal outcomes. -/
theorem outcome?_of_limit_eq
    (limitEq : first.limit = second.limit)
    (bound : Nat) :
    outcome? bound scenario first = outcome? bound scenario second := by
  rw [outcome?_eq firstFaultless, outcome?_eq secondFaultless, initialEq,
    limitEq]

/-- What ends a run before its limit ends it under a looser limit. -/
theorem outcome?_of_looser
    (loose : second.limit.LooserThan first.limit)
    {bound : Nat}
    {outcome : Except (SimulationError α) (Outcome α)}
    (ended : outcome? bound scenario first = some outcome)
    (beforeLimit :
      ∀ reached, outcome = .ok reached → reached.stopReason.isStalled = true) :
    outcome? bound scenario second = some outcome := by
  rw [outcome?_eq firstFaultless, initialEq] at ended
  rw [outcome?_eq secondFaultless]
  cases set : scenario.fault? with
  | some error =>
      rw [set] at ended
      exact ended
  | none =>
      rw [set] at ended
      rcases Option.map_eq_some_iff.mp ended with
        ⟨⟨run, verdict⟩, driven, outcomeEq⟩
      have verdictBeforeLimit :
          ∀ reason, verdict = .ok reason → reason.isStalled = true := by
        rintro reason rfl
        exact beforeLimit _ outcomeEq.symm
      rw [Run.drive_of_looser loose driven verdictBeforeLimit]
      exact congrArg some outcomeEq

end Outcomes

/-- Copper that lands, evaporates and rearranges on a layer of copper. -/
def growingFilmText : String :=
  "build_lattice SimpleCubic 2 2 1 Cu\n" ++
    "nspecies 1\n" ++
    "Cu 63.546\n" ++
    "nprocesses 3\n" ++
    "Cu + * -> Cu*, 1.0\n" ++
    "Cu* -> Cu + *, 1.0\n" ++
    "Cu* -> *Cu, 1.0\n" ++
    "temperature 500\n"

def shortConfig : RunConfig Float := { limit := .steps 2, seed := 6 }

def watchedConfig : RunConfig Float :=
  { limit := .steps 3
    seed := 6
    reportInterval := some 0.25
    metadata := [("run", "watched")] }

end SurfaceKinetics
