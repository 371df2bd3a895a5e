import Mathlib.Algebra.Order.BigOperators.Group.List
import SurfaceKinetics.Proofs.Rate.Sign
import SurfaceKinetics.Proofs.Simulation.Coherence
import SurfaceKinetics.Proofs.Simulation.Observation
import SurfaceKinetics.Proofs.Simulation.Pairs

/-!
# Why runs stop

A run that stops says why.  What it says is true of the state in which it ends:
a limit has been reached by the last event and not before, nothing may happen
anywhere on the lattice, or what may happen has a rate of zero.  The table alone
decides which of the last two it is; that it speaks for the lattice follows from
its being current.

A run whose events use something up ends, whatever its limit.
-/

namespace SurfaceKinetics

variable {α : Type}

/-! ## Tables in which nothing is selected -/

section Selection

variable [Quantity α]

/-- A scan that selects nothing has passed over all pairs. -/
theorem selectFrom_eq_none
    {target cumulative : α}
    {last : Option (LivePair α)}
    {pairs : List (LivePair α)}
    (nothing : selectFrom target cumulative last pairs = none) :
    last = none ∧ ∀ pair ∈ pairs, pair.rate ≤ Quantity.zero := by
  induction pairs generalizing cumulative last with
  | nil => exact ⟨nothing, fun _ member => nomatch member⟩
  | cons first rest induction =>
      rw [selectFrom] at nothing
      split at nothing
      · next passed =>
          rcases induction nothing with ⟨lastEq, others⟩
          exact ⟨lastEq, List.forall_mem_cons.mpr ⟨passed, others⟩⟩
      · split at nothing
        · cases nothing
        · cases (induction nothing).1

theorem EventTable.rate_le_of_select_eq_none
    {table : EventTable α}
    {target : α}
    (nothing : table.select target = none) :
    ∀ pair ∈ table.pairs, pair.rate ≤ Quantity.zero :=
  (selectFrom_eq_none nothing).2

end Selection

/-! ## Stalled steps -/

namespace Run

section Stalling

variable [Quantity α]

/-- What a step that stalls has found in the table. -/
inductive Stalls (run : Run α) : StopReason → Prop where
  | empty
      (nothing : ∀ pair, pair ∉ run.table.pairs) :
      Stalls run .noEligibleEvents
  | total
      {pair : LivePair α}
      (live : pair ∈ run.table.pairs)
      (nothing : run.table.totalRate ≤ Quantity.zero) :
      Stalls run .zeroTotalRate
  | rates
      {pair : LivePair α}
      (live : pair ∈ run.table.pairs)
      (nothing : ∀ pair ∈ run.table.pairs, pair.rate ≤ Quantity.zero) :
      Stalls run .zeroTotalRate

theorem choose_stalled
    {run : Run α}
    {reason : StopReason}
    {random : RandomSource}
    (chosen : run.choose = .ok (.stalled reason, random)) :
    run.Stalls reason := by
  simp only [choose] at chosen
  split at chosen
  · cases chosen
  · split at chosen
    · next empty =>
        cases chosen
        exact .empty (EventTable.isEmpty_iff.mp empty)
    · next inhabited =>
        rw [EventTable.isEmpty_iff, not_forall_not] at inhabited
        rcases inhabited with ⟨pair, live⟩
        split at chosen
        · next nothing =>
            cases chosen
            exact .total live nothing
        · split at chosen
          split at chosen
          · next unselected =>
              cases chosen
              exact .rates live (EventTable.rate_le_of_select_eq_none unselected)
          · cases chosen

/-- A step stalls for what its table shows; every live pair has a process. -/
theorem advance_stalled
    {run : Run α}
    (current : run.Current)
    {reason : StopReason}
    (stalled : run.advance = .stalled reason) :
    run.Stalls reason := by
  rw [advance] at stalled
  split at stalled
  · cases stalled
  · next chosen =>
      cases stalled
      exact choose_stalled chosen
  · next pair random selected =>
      split at stalled
      · next missing =>
          rcases current.mem_pairs_iff.mp (choose_selected selected).1 with
            ⟨process, found, _⟩
          rw [missing] at found
          cases found
      · unfold Advance.ofOutcome at stalled
        split at stalled <;> cases stalled

end Stalling

end Run

/-- A process of a scenario may happen at a site of a lattice. -/
structure Scenario.Eligible
    (scenario : Scenario α)
    (lattice : Lattice)
    (process : SurfaceProcess α)
    (site : Nat) : Prop where
  member : process ∈ scenario.processes
  eligible : process.rule.isEligible lattice site = true

namespace Run

/-- The eligible pairs are the live ones, at the rates of their processes. -/
theorem Current.exists_pair
    [Quantity α]
    {run : Run α}
    (current : run.Current)
    {process : SurfaceProcess α}
    {site : Nat}
    (may : run.scenario.Eligible run.lattice process site) :
    ∃ pair ∈ run.table.pairs,
      pair.rate = process.rate run.scenario.conditions run.lattice site := by
  rcases List.mem_iff_getElem?.mp may.member with ⟨number, found⟩
  exact
    ⟨⟨number, site, _⟩,
      current.mem_pairs_iff.mpr ⟨process, found, may.eligible, rfl⟩, rfl⟩

theorem Current.exists_eligible
    [Quantity α]
    {run : Run α}
    (current : run.Current)
    {pair : LivePair α}
    (live : pair ∈ run.table.pairs) :
    ∃ process,
      run.scenario.Eligible run.lattice process pair.site ∧
        pair.rate =
          process.rate run.scenario.conditions run.lattice pair.site := by
  rcases current.mem_pairs_iff.mp live with
    ⟨process, found, eligible, rateEq⟩
  exact ⟨process, ⟨List.mem_of_getElem? found, eligible⟩, rateEq⟩

section Exact

variable
    [ExactQuantity α]
    {run : Run α}
    (current : run.Current)
    (faultless : run.scenario.fault? = none)

include current faultless

theorem rate_nonneg_of_live :
    ∀ pair ∈ run.table.pairs, 0 ≤ pair.rate := by
  intro pair live
  rcases current.exists_eligible live with ⟨process, may, rateEq⟩
  rw [rateEq]
  exact
    SurfaceProcess.rate_nonneg
      (Scenario.process_fault?_of_fault? faultless may.member)
      (Scenario.conditions_fault?_of_fault? faultless) _ _

/-- Where a run stalls, every eligible process has a rate of zero. -/
theorem rate_eq_zero_of_stalls
    {reason : StopReason}
    (stalls : run.Stalls reason) :
    ∀ process site,
      run.scenario.Eligible run.lattice process site →
        process.rate run.scenario.conditions run.lattice site = 0 := by
  intro process site may
  have nonnegative := rate_nonneg_of_live current faultless
  rcases current.exists_pair may with ⟨pair, live, rateEq⟩
  rw [← rateEq]
  apply le_antisymm _ (nonnegative pair live)
  cases stalls with
  | empty nothing => exact absurd live (nothing pair)
  | total _ nothing =>
      rw [Quantity.zero_eq] at nothing
      exact (EventTable.rate_le_totalRate nonnegative pair live).trans nothing
  | rates _ nothing =>
      rw [← Quantity.zero_eq]
      exact nothing pair live

end Exact

end Run

/-! ## Limits -/

namespace RunLimit

/-- A limit has not been reached. -/
structure Open
    [Quantity α]
    (limit : RunLimit α)
    (now : α)
    (step : Nat) : Prop where
  time : ∀ endTime, limit.endTime? = some endTime → now < endTime
  steps : ∀ maxSteps, limit.maxSteps? = some maxSteps → step < maxSteps

/-- What the reasons of a limit say. -/
theorem stopReason?_eq_some
    [Quantity α]
    {limit : RunLimit α}
    {now : α}
    {step : Nat}
    {reason : StopReason}
    (reached : limit.stopReason? now step = some reason) :
    (reason = .endTime ∧
        ∃ endTime, limit.endTime? = some endTime ∧ endTime ≤ now) ∨
      reason = .maxSteps ∧
        ∃ maxSteps, limit.maxSteps? = some maxSteps ∧ maxSteps ≤ step := by
  rw [stopReason?] at reached
  split at reached
  · next late =>
      cases reached
      rw [timeIsUp] at late
      split at late
      · next endTime found =>
          exact Or.inl ⟨rfl, endTime, found, of_decide_eq_true late⟩
      · cases late
  · split at reached
    · next many =>
        cases reached
        rw [stepsAreUp] at many
        split at many
        · next maxSteps found =>
            exact Or.inr ⟨rfl, maxSteps, found, of_decide_eq_true many⟩
        · cases many
    · cases reached

section Exact

variable [ExactQuantity α] {limit : RunLimit α}

theorem open_of_stopReason?
    {now : α}
    {step : Nat}
    (unlimited : limit.stopReason? now step = none) :
    limit.Open now step := by
  rw [stopReason?] at unlimited
  split at unlimited
  · cases unlimited
  · next early =>
      split at unlimited
      · cases unlimited
      · next few =>
          constructor
          · intro endTime found
            simpa [timeIsUp, found] using early
          · intro maxSteps found
            simpa [stepsAreUp, found] using few

/-- No limit without faults is reached before the first event. -/
theorem open_zero
    (faultless : limit.fault? = none) :
    limit.Open 0 0 := by
  rw [fault?] at faultless
  constructor
  · intro endTime found
    rw [found] at faultless
    dsimp only at faultless
    split at faultless
    · next accepted =>
        simpa [Quantity.isPositive] using (Bool.and_eq_true_iff.mp accepted).2
    · cases faultless
  · intro maxSteps found
    rcases Nat.eq_zero_or_pos maxSteps with rfl | positive
    · rw [if_pos found] at faultless
      split at faultless
      · split at faultless <;> cases faultless
      · cases faultless
    · exact positive

end Exact

end RunLimit

/-! ## Runs under a limit -/

namespace Run

section Turns

variable [Quantity α] {limit : RunLimit α}

/-- A turn that stops a run has reached a limit, or it stalls. -/
theorem turn_stopped
    {run : Run α}
    {reason : StopReason}
    (stopped : run.turn limit = .error (.ok reason)) :
    limit.stopReason? run.time run.step = some reason ∨
      run.advance = .stalled reason := by
  rw [turn] at stopped
  split at stopped
  · next reached =>
      cases stopped
      exact Or.inl reached
  · split at stopped
    · next stalled =>
        cases stopped
        exact Or.inr stalled
    · cases stopped
    · cases stopped

/-- A driven run ends in a state that one more turn does not change. -/
theorem turn_of_drive
    {bound : Nat}
    {run final : Run α}
    {verdict : Verdict α}
    (ended : run.drive limit bound = some (final, verdict)) :
    final.turn limit = .error verdict := by
  induction bound generalizing run with
  | zero => cases ended
  | succ bound induction =>
      rw [drive] at ended
      split at ended
      · next stopped =>
          cases ended
          exact stopped
      · exact induction ended

theorem Passes.reaches
    {first run : Run α}
    (passes : Passes limit first run) :
    first.Reaches run := by
  rcases passes.after_eq with ⟨_, found, _⟩
  exact (reaches_of_after found).1

/-- A run ends if each of its events uses up some of what remains. -/
theorem drive_isSome
    {first : Run α}
    (remaining : Run α → Nat)
    (decreases :
      ∀ run next,
        Passes limit first run →
          run.turn limit = .ok next → remaining next < remaining run)
    {bound : Nat}
    (enough : remaining first < bound) :
    ∃ ended, first.drive limit bound = some ended := by
  have ends :
      ∀ bound run,
        Passes limit first run →
          remaining run < bound →
            ∃ ended, run.drive limit bound = some ended := by
    intro bound
    induction bound with
    | zero => exact fun run _ impossible => absurd impossible (Nat.not_lt_zero _)
    | succ bound induction =>
        intro run passes sufficient
        rw [drive]
        cases turned : run.turn limit with
        | error verdict => exact ⟨_, rfl⟩
        | ok next =>
            have fewer := decreases run next passes turned
            exact induction next (passes.turned turned) (by omega)
  exact ends bound first .refl enough

end Turns

section Exact

variable [ExactQuantity α] {limit : RunLimit α}

/-- The limit is open wherever a run goes on. -/
theorem Passes.open_of_step_lt
    {first earlier later : Run α}
    (passes : Passes limit first earlier)
    (passesLater : Passes limit first later)
    (before : earlier.step < later.step) :
    limit.Open earlier.time earlier.step := by
  induction passesLater with
  | refl => exact absurd passes.begun (Nat.not_le_of_lt before)
  | @turned run next passesRun turned induction =>
      rcases turn_ok turned with ⟨unlimited, process, pair, moved⟩
      rcases advance_moved moved with ⟨state, chosen, moves⟩
      rw [moves.step_eq] at before
      rcases Nat.lt_or_eq_of_le (Nat.le_of_lt_succ before) with sooner | same
      · exact induction sooner
      · rw [passesRun.eq_of_step_eq passes same]
        exact RunLimit.open_of_stopReason? unlimited

theorem Passes.step_le
    {first run : Run α}
    (passes : Passes limit first run)
    {maxSteps : Nat}
    (found : limit.maxSteps? = some maxSteps)
    (begins : first.step ≤ maxSteps) :
    run.step ≤ maxSteps := by
  cases passes with
  | refl => exact begins
  | turned earlier turned =>
      rcases turn_ok turned with ⟨unlimited, process, pair, moved⟩
      rcases advance_moved moved with ⟨state, chosen, moves⟩
      rw [moves.step_eq]
      exact (RunLimit.open_of_stopReason? unlimited).steps maxSteps found

end Exact

end Run

/-! ## Results -/

section Results

variable
    [Quantity α]
    {scenario : Scenario α}
    {config : RunConfig α}
    {bound : Nat}

/-- There is an answer when the run ends within the bound. -/
theorem exists_answer_of_drive
    (ends :
      ∃ ended,
        (Run.initial scenario config).drive config.limit bound = some ended) :
    ∃ answer, (solve? bound scenario config).value = some answer := by
  have answered : (outcome? bound scenario config).isSome = true := by
    cases configured : config.fault? with
    | some fault =>
        rw [outcome?_of_fault? configured]
        rfl
    | none =>
        rcases ends with ⟨ended, driven⟩
        rw [outcome?_eq configured, driven]
        cases scenario.fault? <;> rfl
  rw [outcome?, Option.isSome_map] at answered
  exact Option.isSome_iff_exists.mp answered

/-- A result shows the state in which its run has stopped. -/
theorem solve?_stopped
    {result : SimulationResult α}
    (solved : (solve? bound scenario config).value = some (.ok result)) :
    ∃ run,
      config.Visits scenario run ∧
        run.turn config.limit = .error (.ok result.stopReason) ∧
          result.outcome = run.outcome result.stopReason := by
  have faultless := (solve?_ok solved).1
  have ended :
      outcome? bound scenario config = some (.ok result.outcome) := by
    rw [outcome?, solved]
    rfl
  rw [outcome?_eq (config_fault?_of_runFault? faultless),
    fault?_of_runFault? faultless] at ended
  rcases Option.map_eq_some_iff.mp ended with
    ⟨⟨run, verdict⟩, driven, outcomeEq⟩
  cases verdict with
  | error error => cases outcomeEq
  | ok reason =>
      have shown : run.outcome reason = result.outcome :=
        Except.ok.inj outcomeEq
      have reasonEq : reason = result.stopReason :=
        congrArg Outcome.stopReason shown
      rw [reasonEq] at driven shown
      exact
        ⟨run, RunConfig.visits_iff.mpr (Run.Passes.refl.of_drive driven),
          Run.turn_of_drive driven, shown.symm⟩

end Results

/-- What a result says of its stopping is true. -/
def SimulationResult.Truthful
    [Quantity α]
    (result : SimulationResult α)
    (scenario : Scenario α)
    (config : RunConfig α) : Prop :=
  match result.stopReason with
  | .endTime =>
    ∃ endTime before,
      config.limit.endTime? = some endTime ∧
        endTime ≤ result.time ∧
          config.Visits scenario before ∧
            before.step + 1 = result.steps ∧ before.time < endTime
  | .maxSteps => config.limit.maxSteps? = some result.steps
  | .zeroTotalRate =>
    (∃ process site, scenario.Eligible result.lattice process site) ∧
      ∀ process site,
        scenario.Eligible result.lattice process site →
          process.rate scenario.conditions result.lattice site = Quantity.zero
  | .noEligibleEvents =>
    ∀ process site, ¬ scenario.Eligible result.lattice process site

section Truth

variable
    [ExactQuantity α]
    {scenario : Scenario α}
    {config : RunConfig α}
    (faultless : runFault? scenario config = none)
    {run : Run α}
    (passes : Run.Passes config.limit (Run.initial scenario config) run)
    {reason : StopReason}

include faultless passes

/-- The limit of time is reached by the last event. -/
theorem exists_before_endTime
    {endTime : α}
    (found : config.limit.endTime? = some endTime)
    (late : endTime ≤ run.time) :
    ∃ before,
      config.Visits scenario before ∧
        before.step + 1 = run.step ∧ before.time < endTime := by
  cases passes with
  | refl =>
      have early : 0 < endTime :=
        (RunLimit.open_zero
          (RunConfig.limit_fault?_of_fault?
            (config_fault?_of_runFault? faultless))).time endTime found
      have begins : (Run.initial scenario config).time = 0 := Quantity.zero_eq
      rw [begins] at late
      exact absurd early (not_lt_of_ge late)
  | @turned before _ earlier turned =>
      rcases Run.turn_ok turned with ⟨unlimited, process, pair, moved⟩
      rcases Run.advance_moved moved with ⟨state, chosen, moves⟩
      exact
        ⟨before, RunConfig.visits_iff.mpr earlier, moves.step_eq.symm,
          (RunLimit.open_of_stopReason? unlimited).time endTime found⟩

/-- What the state of a stalled run shows of the reason. -/
theorem truthful_of_stalled
    (stalled : run.advance = .stalled reason)
    {result : SimulationResult α}
    (latticeEq : result.lattice = run.lattice)
    (reasonEq : result.stopReason = reason) :
    result.Truthful scenario config := by
  rw [SimulationResult.Truthful, latticeEq, reasonEq, Quantity.zero_eq]
  have reached := passes.reaches
  have current : run.Current := reached.current
  have scenarioEq : run.scenario = scenario := reached.scenario_eq
  have runFaultless : run.scenario.fault? = none := by
    rw [scenarioEq]
    exact fault?_of_runFault? faultless
  have stalls := Run.advance_stalled current stalled
  have ratesEq := Run.rate_eq_zero_of_stalls current runFaultless stalls
  rw [scenarioEq] at ratesEq
  have live :
      ∀ pair ∈ run.table.pairs,
        ∃ process site, scenario.Eligible run.lattice process site := by
    intro pair member
    rcases current.exists_eligible member with ⟨process, may, _⟩
    rw [scenarioEq] at may
    exact ⟨process, pair.site, may⟩
  cases stalls with
  | empty nothing =>
      intro process site may
      rw [← scenarioEq] at may
      rcases current.exists_pair may with ⟨pair, member, _⟩
      exact nothing pair member
  | total member => exact ⟨live _ member, ratesEq⟩
  | rates member => exact ⟨live _ member, ratesEq⟩

/-- What the state in which a run has stopped shows of the reason. -/
theorem truthful_of_stopped
    (stopped : run.turn config.limit = .error (.ok reason))
    {result : SimulationResult α}
    (shown : result.outcome = run.outcome reason) :
    result.Truthful scenario config := by
  have reasonEq : result.stopReason = reason :=
    congrArg Outcome.stopReason shown
  rcases Run.turn_stopped stopped with reached | stalled
  · have timeEq : result.time = run.time := congrArg Outcome.time shown
    have stepsEq : result.steps = run.step := congrArg Outcome.steps shown
    rw [SimulationResult.Truthful, timeEq, stepsEq, reasonEq]
    rcases RunLimit.stopReason?_eq_some reached with
      ⟨rfl, endTime, found, late⟩ | ⟨rfl, maxSteps, found, many⟩
    · rcases exists_before_endTime faultless passes found late with
        ⟨before, visits, last, early⟩
      exact ⟨endTime, before, found, late, visits, last, early⟩
    · have few : run.step ≤ maxSteps := passes.step_le found (Nat.zero_le _)
      rw [found, Nat.le_antisymm few many]
  · exact
      truthful_of_stalled faultless passes stalled
        (congrArg Outcome.lattice shown) reasonEq

end Truth

/--
What a result says of its stopping is true.  With a limit of steps the run ends
whatever happens, and no run passes a limit that it has reached.
-/
theorem stop_reasons_true
    [ExactQuantity α]
    (scenario : Scenario α)
    (config : RunConfig α) :
    (∀ maxSteps,
      config.limit.maxSteps? = some maxSteps →
        ∀ bound,
          maxSteps < bound →
            ∃ answer, (solve? bound scenario config).value = some answer) ∧
      (∀ bound result,
        (solve? bound scenario config).value = some (.ok result) →
          (∀ maxSteps,
            config.limit.maxSteps? = some maxSteps →
              result.steps ≤ maxSteps) ∧
            result.Truthful scenario config) ∧
        ∀ earlier later,
          config.Visits scenario earlier →
            config.Visits scenario later →
              earlier.step < later.step →
                (∀ endTime,
                  config.limit.endTime? = some endTime →
                    earlier.time < endTime) ∧
                  ∀ maxSteps,
                    config.limit.maxSteps? = some maxSteps →
                      earlier.step < maxSteps := by
  refine ⟨?_, ?_, ?_⟩
  · intro maxSteps found bound enough
    apply exists_answer_of_drive
    apply Run.drive_isSome (fun run => maxSteps - run.step)
    · intro run next passes turned
      rcases Run.turn_ok turned with ⟨unlimited, process, pair, moved⟩
      rcases Run.advance_moved moved with ⟨state, chosen, moves⟩
      have below :=
        (RunLimit.open_of_stopReason? unlimited).steps maxSteps found
      rw [moves.step_eq]
      omega
    · exact enough
  · intro bound result solved
    rcases solve?_stopped solved with ⟨run, visits, stopped, shown⟩
    rw [RunConfig.visits_iff] at visits
    have faultless := (solve?_ok solved).1
    constructor
    · intro maxSteps found
      have stepsEq : result.steps = run.step := congrArg Outcome.steps shown
      rw [stepsEq]
      exact visits.step_le found (Nat.zero_le _)
    · exact truthful_of_stopped faultless visits stopped shown
  · intro earlier later visits visitsLater before
    rw [RunConfig.visits_iff] at visits visitsLater
    have limitOpen := visits.open_of_step_lt visitsLater before
    exact ⟨limitOpen.time, limitOpen.steps⟩

/-- Oxygen that covers four sites and then leaves none of them. -/
def reluctantText : String :=
  "build_lattice SimpleCubic 2 2 0 Cu\n" ++
    "nspecies 2\n" ++
    "Cu 63.546\n" ++
    "O 15.999\n" ++
    "nprocesses 2\n" ++
    "O + * -> O*, 1.0\n" ++
    "O* -> O + *, 0.0\n" ++
    "temperature 500\n"

def hastyConfig : RunConfig ℚ := { limit := .timeOrSteps (1 / 4) 9, seed := 5 }

def patientConfig : RunConfig ℚ := { limit := .timeOrSteps 50 9, seed := 5 }

theorem stop_reasons_true_reluctant :
    ∃ (scenario : Scenario ℚ) (hasty patient : SimulationResult ℚ),
      Scenario.ofText? reluctantText = some scenario ∧
        (solve? 5 scenario hastyConfig).value = some (.ok hasty) ∧
          (hasty.stopReason = .endTime ∧ hasty.Truthful scenario hastyConfig) ∧
            (solve? 5 scenario patientConfig).value = some (.ok patient) ∧
              patient.stopReason = .zeroTotalRate ∧
                patient.Truthful scenario patientConfig := by
  have ahead :
      ((Scenario.ofText? (α := ℚ) reluctantText).any fun scenario =>
        (result? 5 scenario hastyConfig).any (·.stopReason = .endTime) &&
          (result? 5 scenario patientConfig).any
            (·.stopReason = .zeroTotalRate)) = true := by
    decide +kernel
  rcases (Option.any_eq_true _ _).mp ahead with ⟨scenario, found, checked⟩
  rcases Bool.and_eq_true_iff.mp checked with ⟨hastyRuns, patientRuns⟩
  rcases (Option.any_eq_true _ _).mp hastyRuns with
    ⟨hasty, hastyFound, hastyReason⟩
  rcases (Option.any_eq_true _ _).mp patientRuns with
    ⟨patient, patientFound, patientReason⟩
  have hastySolved := solve?_of_result? hastyFound
  have patientSolved := solve?_of_result? patientFound
  exact
    ⟨scenario, hasty, patient, found, hastySolved,
      ⟨of_decide_eq_true hastyReason,
        ((stop_reasons_true scenario hastyConfig).2.1 5 hasty hastySolved).2⟩,
      patientSolved, of_decide_eq_true patientReason,
      ((stop_reasons_true scenario patientConfig).2.1 5 patient
        patientSolved).2⟩

end SurfaceKinetics
