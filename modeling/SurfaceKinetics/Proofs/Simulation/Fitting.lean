import SurfaceKinetics.Proofs.Input.Fitting
import SurfaceKinetics.Proofs.Input.Terraces
import SurfaceKinetics.Proofs.Simulation.Origin
import SurfaceKinetics.Proofs.Simulation.Solving
import SurfaceKinetics.Proofs.SurfaceProcess.Fitting

/-!
# Runs that fit

A run in 32 bits makes the steps of the exact run for as long as its numbers fit: one
step stops the program exactly when the event leaves a height that does not fit, or a
threshold does not fit with which it is counted anew.  So every lattice that is reached
fits, and every result of a simulation in 32 bits is the exact result.
-/

namespace SurfaceKinetics

theorem eq_some_ok_of_bind_toOption
    {ε β : Type}
    {outcome? : Option (Except ε β)}
    {result : β}
    (found : outcome?.bind Except.toOption = some result) :
    outcome? = some (.ok result) := by
  rcases Option.bind_eq_some_iff.mp found with ⟨outcome, rfl, ok⟩
  cases outcome with
  | error error => cases ok
  | ok value =>
      cases ok
      rfl

variable {α : Type} [Quantity α]

namespace Scenario

/-! ## Scenarios -/

omit [Quantity α] in
/-- A scenario is assembled unless the thresholds do not fit that it counts with. -/
theorem checks_assemble
    (lattice : Lattice)
    (processes : List (SurfaceProcess α))
    (conditions : Conditions α) :
    Checks (assemble? lattice processes conditions)
      (∀ site,
        Lattice.CountFits
          { lattice with coordination := coordinationOf processes } site)
      (assemble lattice processes conditions) := by
  have counted :=
    (lattice.checks_withCoordination (coordinationOf processes)).map fun lattice =>
      ({ lattice, processes, conditions } : Scenario α)
  exact counted

/-- Of an input without faults, what is computed is its lattice and its counts. -/
theorem value?_ofInput?
    {input : SimulationInput α}
    {config : LatticeConfig}
    {temperature : α}
    (configured : input.lattice = some config)
    (heated : input.temperature = some temperature)
    (faultless : config.fault? = none) :
    (ofInput? input).value? =
      (Lattice.ofConfig? config).bind fun lattice =>
        (assemble? lattice (boundProcesses input).value
            { temperature, pressure := (pressureOf input).value }).map checked := by
  rcases LatticeConfig.exists_build? faultless with ⟨built, buildEq, valueEq⟩
  rw [ofInput?, configured, heated]
  simp only [buildEq, Checked.value?_bind, valueEq, Checked.value?_lift,
    Checked.value?_ofOption, Checked.value?_pure, Option.bind_some,
    Option.map_eq_bind, Function.comp_def]

/-- A scenario whose lattice is built in 32 bits is the exact one. -/
theorem ofInput_of_ofInput?
    {input : SimulationInput α}
    {outcome : Except (SimulationError α) (Scenario α)}
    (computed : (ofInput? input).value? = some outcome) :
    (ofInput input).value = outcome := by
  cases configured : input.lattice with
  | none =>
      rw [ofInput?, configured] at computed
      rw [ofInput, configured]
      exact Option.some.inj computed
  | some config =>
      cases heated : input.temperature with
      | none =>
          rw [ofInput?, configured, heated] at computed
          rw [ofInput, configured, heated]
          exact Option.some.inj computed
      | some temperature =>
          cases faulty : config.fault? with
          | some fault =>
              rw [ofInput?, configured, heated] at computed
              rw [ofInput, configured, heated]
              simp only [Lattice.build?, faulty] at computed
              simp only [Lattice.build, faulty]
              exact Option.some.inj computed
          | none =>
              rcases Lattice.exists_build faulty with ⟨built, buildEq, valueEq⟩
              rw [value?_ofInput? configured heated faulty] at computed
              rcases Option.bind_eq_some_iff.mp computed with ⟨lattice, started, ended⟩
              rcases Option.map_eq_some_iff.mp ended with ⟨scenario, assembled, rfl⟩
              cases ((LatticeConfig.checks_ofConfig faulty).eq_some_iff.mp started).2
              cases ((checks_assemble ..).eq_some_iff.mp assembled).2
              rw [ofInput, configured, heated]
              simp only [buildEq, Noted.value_bind, valueEq, onLattice, Noted.value_pure]

/-- The lattice of a scenario that is defined in 32 bits fits. -/
theorem fits_of_ofInput?
    {input : SimulationInput α}
    {scenario : Scenario α}
    (short :
      ∀ config, input.lattice = some config → IsShort config.initialHeight)
    (defined : (ofInput? input).value? = some (.ok scenario)) :
    scenario.lattice.Fits := by
  rcases (comes_of_ofInput (ofInput_of_ofInput? defined)).assembled with
    ⟨config, configured, faultless, latticeEq⟩
  cases heated : input.temperature with
  | none =>
      rw [ofInput?, configured, heated] at defined
      cases Option.some.inj defined
  | some temperature =>
      rw [value?_ofInput? configured heated faultless] at defined
      rcases Option.bind_eq_some_iff.mp defined with ⟨lattice, started, _⟩
      have latticeFits :=
        LatticeConfig.fits_of_ofConfig? faultless (short config configured) started
      cases ((LatticeConfig.checks_ofConfig faultless).eq_some_iff.mp started).2
      rw [latticeEq]
      exact (Lattice.fits_refreshMany _ _).mpr latticeFits

/-- The scenario that a text defines in 32 bits, if it defines one. -/
def ofShortText? (text : String) : Option (Scenario α) := do
  let input ← (SimulationInput.read? text).value?.bind Except.toOption
  (ofInput? input).value?.bind Except.toOption

/-- A text that defines a scenario in 32 bits gives it a short initial height. -/
theorem ofInput?_of_ofShortText?
    {text : String}
    {scenario : Scenario α}
    (found : ofShortText? text = some scenario) :
    ∃ input : SimulationInput α,
      (SimulationInput.read? text).value? = some (.ok input) ∧
        (∀ config, input.lattice = some config → IsShort config.initialHeight) ∧
          (ofInput? input).value? = some (.ok scenario) := by
  rcases Option.bind_eq_some_iff.mp found with ⟨input, inputFound, scenarioFound⟩
  have read := eq_some_ok_of_bind_toOption inputFound
  have defined := eq_some_ok_of_bind_toOption scenarioFound
  have exact_ := ((SimulationInput.checks_read text).eq_some_iff.mp read).2
  exact
    ⟨input, read,
      fun _ configured =>
        (SimulationInput.legible_of_read exact_ configured).isShort_initialHeight,
      defined⟩

end Scenario

namespace Run

/-! ## One step -/

/-- An event leaves heights that fit, and so do the thresholds with which it counts. -/
def EventFits (event : Event) : Prop :=
  event.lattice.Fits ∧ ∀ site ∈ event.affected, event.lattice.CountFits site

theorem checks_execute
    {run : Run α}
    (fits : run.lattice.Fits)
    (process : SurfaceProcess α)
    (pair : LivePair α) :
    Checks (run.execute? process pair)
      (∀ event,
        ((process.perform.execute (α := α) run.lattice pair.site).run
            run.random).1 = .ok event →
          EventFits event)
      (run.execute process pair) := by
  have fitted :
      (process.perform.execute? (α := α) run.lattice pair.site).run run.random =
        ((process.perform.execute (α := α) run.lattice pair.site).run run.random).map
          Perform.fitting? id := by
    rw [process.perform.execute?_eq_map fits pair.site, StateT.run_map]
    rfl
  rw [execute?]
  rcases performed :
      (process.perform.execute (α := α) run.lattice pair.site).run run.random with
    ⟨error | event, random⟩
  · have failed : run.execute process pair = .error error := by
      rw [execute, performed]
      rfl
    rw [fitted, performed, failed]
    refine (Checks.some _).congr (iff_of_true trivial fun _ happened => ?_)
    cases happened
  · rw [fitted, performed, Prod.map, Perform.fitting?]
    by_cases eventFits : event.lattice.Fits
    · rw [if_pos eventFits]
      have counted :=
        (event.lattice.checks_refreshMany event.affected).map fun _ =>
          run.execute process pair
      refine counted.congr ⟨?_, ?_⟩
      · rintro counts _ ⟨⟩
        exact ⟨eventFits, counts⟩
      · intro all
        exact (all event rfl).2
    · rw [if_neg eventFits]
      exact Checks.none (fun all => eventFits (all event rfl).1) _

/-- The event of a step fits. -/
def StepFits (run : Run α) : Prop :=
  ∀ pair random process event,
    run.choose = .ok (.selected pair, random) →
      run.scenario.processes[pair.process]? = some process →
        ((process.perform.execute (α := α) run.lattice pair.site).run random).1 =
            .ok event →
          EventFits event

theorem stepFits_of_not_selected
    {run : Run α}
    (notSelected : ∀ pair random, run.choose ≠ .ok (.selected pair, random)) :
    run.StepFits :=
  fun pair random _ _ selected => absurd selected (notSelected pair random)

/-- A step in 32 bits is the exact step, if its event fits. -/
theorem checks_advance {run : Run α} (fits : run.lattice.Fits) :
    Checks run.advance? run.StepFits run.advance := by
  rw [advance?, advance]
  split
  · next fault failed =>
      have idle : run.StepFits := by
        refine stepFits_of_not_selected fun _ _ selected => ?_
        cases failed.symm.trans selected
      exact (Checks.some _).congr (iff_of_true trivial idle)
  · next reason random stalled =>
      have idle : run.StepFits := by
        refine stepFits_of_not_selected fun _ _ selected => ?_
        cases stalled.symm.trans selected
      exact (Checks.some _).congr (iff_of_true trivial idle)
  · next pair random selected =>
      split
      · next absent =>
          have idle : run.StepFits := by
            intro _ _ process _ selected' found _
            cases selected.symm.trans selected'
            cases absent.symm.trans found
          exact (Checks.some _).congr (iff_of_true trivial idle)
      · next process found =>
          have drawn : ({ run with random } : Run α).lattice.Fits := fits
          have executed :=
            (checks_execute drawn process pair).map (Advance.ofOutcome process pair)
          refine executed.congr ⟨?_, ?_⟩
          · intro eventsFit _ _ _ event selected' found' performed
            cases selected.symm.trans selected'
            cases found.symm.trans found'
            exact eventsFit event performed
          · intro stepFits event performed
            exact stepFits pair random process event selected found performed

/-- The event of a step, and the lattice that is counted anew after it. -/
theorem advance_executed
    {run next : Run α}
    {process : SurfaceProcess α}
    {pair : LivePair α}
    (moved : run.advance = .moved next process pair) :
    ∃ random event,
      run.choose = .ok (.selected pair, random) ∧
        run.scenario.processes[pair.process]? = some process ∧
          ((process.perform.execute (α := α) run.lattice pair.site).run random).1 =
              .ok event ∧
            next.lattice = event.lattice.refreshMany event.affected := by
  rw [advance] at moved
  split at moved
  · cases moved
  · cases moved
  · next selectedPair random selected =>
      split at moved
      · cases moved
      · next selectedProcess found =>
          unfold Advance.ofOutcome at moved
          split at moved
          · next executed =>
              cases moved
              simp only [execute] at executed
              split at executed
              · cases executed
              · next event afterwards performed =>
                  cases executed
                  exact
                    ⟨random, event, selected, found, congrArg Prod.fst performed, rfl⟩
          · cases moved

/-- A step that is made in 32 bits is exact and leaves a lattice that fits. -/
theorem advance_moved_of_advance?
    {run next : Run α}
    {process : SurfaceProcess α}
    {pair : LivePair α}
    (fits : run.lattice.Fits)
    (moved : run.advance? = some (.moved next process pair)) :
    run.advance = .moved next process pair ∧ next.lattice.Fits := by
  rcases (checks_advance fits).eq_some_iff.mp moved with ⟨stepFits, advanced⟩
  rcases advance_executed advanced with
    ⟨random, event, selected, found, performed, latticeEq⟩
  have eventFits := stepFits pair random process event selected found performed
  rw [latticeEq, Lattice.fits_refreshMany]
  exact ⟨advanced, eventFits.1⟩

/-! ## Many steps -/

/-- A run is reached from another by executing events in 32 bits. -/
inductive ReachesChecked (first : Run α) : Run α → Prop where
  | refl : ReachesChecked first first
  | moved
      {run next : Run α}
      {process : SurfaceProcess α}
      {pair : LivePair α}
      (earlier : ReachesChecked first run)
      (step : run.advance? = some (.moved next process pair)) :
      ReachesChecked first next

/-- A run that is reached in 32 bits is reached, and its lattice fits. -/
theorem ReachesChecked.reaches
    {first run : Run α}
    (fits : first.lattice.Fits)
    (reached : first.ReachesChecked run) :
    first.Reaches run ∧ run.lattice.Fits := by
  induction reached with
  | refl => exact ⟨.refl, fits⟩
  | moved earlier step induction =>
      rcases advance_moved_of_advance? induction.2 step with ⟨moved, nextFits⟩
      exact ⟨.moved induction.1 moved, nextFits⟩

theorem ReachesChecked.trans
    {first second third : Run α}
    (begins : first.ReachesChecked second)
    (continues : second.ReachesChecked third) :
    first.ReachesChecked third := by
  induction continues with
  | refl => exact begins
  | moved earlier step induction => exact .moved induction step

/-- The run after a number of events in 32 bits, if as many can happen. -/
def after? : Nat → Run α → Option (Run α)
  | 0, run => some run
  | count + 1, run =>
    match run.advance? with
    | some (.moved next _ _) => next.after? count
    | _ => none

theorem reachesChecked_of_after?
    {count : Nat}
    {run later : Run α}
    (found : run.after? count = some later) :
    run.ReachesChecked later := by
  induction count generalizing run with
  | zero =>
      cases found
      exact .refl
  | succ count induction =>
      rw [after?] at found
      split at found
      · next next process pair moved =>
          exact (ReachesChecked.refl.moved moved).trans (induction found)
      · cases found

end Run

namespace Progress

/-! ## The loop -/

/-- One step in 32 bits, its measurements included, is the exact step. -/
theorem next_of_next?
    {progress : Progress α}
    {config : RunConfig α}
    {outcome : Except (RunEnd α) (Progress α)}
    (fits : progress.run.lattice.Fits)
    (stepped : progress.next? config = some outcome) :
    progress.next config = outcome ∧
      ∀ later, outcome = .ok later → later.run.lattice.Fits := by
  rw [next?, Option.filter_eq_some_iff] at stepped
  have made := stepped.1
  rw [unmeasured?] at made
  split at made
  · next reason due =>
      cases made
      rw [next, due]
      refine ⟨rfl, fun later continues => ?_⟩
      cases continues
  · next undue =>
      rcases Option.map_eq_some_iff.mp made with ⟨advance, advanced, rfl⟩
      have advanceEq := ((Run.checks_advance fits).eq_some_iff.mp advanced).2
      have nextEq : progress.next config = progress.settle config advance := by
        rw [next, undue, advanceEq]
      refine ⟨nextEq, fun later settled => ?_⟩
      rcases (next_ok (nextEq.trans settled)).1 with ⟨process, pair, moved⟩
      rw [← advanceEq, moved] at advanced
      exact (Run.advance_moved_of_advance? fits advanced).2

/-- The loop in 32 bits ends, or goes on beyond its bound, as the exact loop does. -/
theorem loop_of_loop?
    {config : RunConfig α}
    {bound : Nat}
    {progress : Progress α}
    {runEnd? : Option (RunEnd α)}
    (fits : progress.run.lattice.Fits)
    (looped : loop? config bound progress = some runEnd?) :
    loop config bound progress = runEnd? := by
  induction bound generalizing progress with
  | zero =>
      cases looped
      rfl
  | succ bound induction =>
      rcases Option.bind_eq_some_iff.mp looped with ⟨outcome, stepped, looped⟩
      rcases next_of_next? fits stepped with ⟨nextEq, laterFits⟩
      rw [loop, nextEq]
      cases outcome with
      | error runEnd =>
          cases looped
          rfl
      | ok later => exact induction (laterFits later rfl) looped

end Progress

/-- Whatever a simulation in 32 bits results in, the exact one does. -/
theorem value_solve?_of_solveChecked?
    {bound : Nat}
    {scenario : Scenario α}
    {config : RunConfig α}
    {result : Option (Except (SimulationError α) (SimulationResult α))}
    (fits : scenario.lattice.Fits)
    (solved : (solveChecked? bound scenario config).value? = some result) :
    (solve? bound scenario config).value = result := by
  rw [solveChecked?] at solved
  rw [solve?]
  split at solved
  · cases solved
    rfl
  · simp only [Checked.value?_bind, Checked.value?_lift, Checked.value?_ofOption,
      Option.bind_eq_some_iff] at solved
    rcases solved with ⟨_, _, _, _, runEnd?, looped, ended⟩
    have start : (Run.start scenario (RandomSource.ofSeed config.seed)).lattice.Fits :=
      fits
    have loopEq := Progress.loop_of_loop? start looped
    rw [Option.some.injEq] at ended
    change (concluded scenario config (Progress.loop config bound _)).value = result
    rw [loopEq, ended]

end SurfaceKinetics
