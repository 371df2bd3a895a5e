import SurfaceKinetics.Proofs.Simulation.Coherence
import SurfaceKinetics.Proofs.Simulation.Origin
import SurfaceKinetics.Proofs.Simulation.Solving

/-!
# Recomputation

The naive way to run a scenario counts all sites and evaluates all pairs after
every event.  A run that brings only the affected sites up to date makes the
same steps and leaves the same result and the same notes.
-/

namespace SurfaceKinetics

variable {α : Type} [Quantity α]

/-! ## The naive way -/

namespace Run

/-- Executes the event of a selected pair, and recomputes everything. -/
def executeNaively
    (run : Run α)
    (process : SurfaceProcess α)
    (pair : LivePair α) :
    Except (SimulationError α) (Run α) :=
  let total := run.table.totalRate
  match (process.perform.execute run.lattice pair.site).run run.random with
  | (.error error, _) => throw error
  | (.ok event, random) =>
    let (wait, random) := (waitingTime total).run random
    pure
      { run.recount event with
        random
        events := run.events.modify pair.process (· + 1)
        netColumns := run.netColumns + process.heightChange
        step := run.step + 1
        time := run.time + wait }

/-- One step of a naive run. -/
def advanceNaively (run : Run α) : Advance α :=
  match run.choose with
  | .error fault => .failed (.numerical fault) none
  | .ok (.stalled reason, _) => .stalled reason
  | .ok (.selected pair, random) =>
    match run.scenario.processes[pair.process]? with
    | none => .stalled .zeroTotalRate
    | some process =>
      match { run with random }.executeNaively process pair with
      | .ok next => .moved next process pair
      | .error error => .failed error (some (process, pair))

end Run

namespace Progress

/-- One step of a naive run and, if it is due, one report; or the end of it. -/
def nextNaively
    (progress : Progress α)
    (config : RunConfig α) :
    Except (RunEnd α) (Progress α) :=
  let run := progress.run
  match config.limit.stopReason? run.time run.step with
  | some reason => throw (.stopped progress reason)
  | none =>
    match run.advanceNaively with
    | .stalled reason =>
      let time := Quantity.write (.significant 6) run.time
      throw <|
        .stopped
          (progress.note .warn <|
            s!"Simulation stopped at step {run.step} (t = {time} s): " ++
              reason.message)
          reason
    | .failed error none => throw (.failed progress error)
    | .failed error (some (process, pair)) =>
      throw (.failed (progress.noteEvent process pair) error)
    | .moved run process pair =>
      pure <|
        { progress.noteEvent process pair with run }.report config.reportInterval

/-- Naive steps until a run ends, or until a number of steps has been made. -/
def loopNaively (config : RunConfig α) : Nat → Progress α → Option (RunEnd α)
  | 0, _ => none
  | bound + 1, progress =>
    match progress.nextNaively config with
    | .error runEnd => some runEnd
    | .ok progress => loopNaively config bound progress

end Progress

/-- Runs a scenario the naive way. -/
def solveNaively?
    (bound : Nat)
    (scenario : Scenario α)
    (config : RunConfig α) :
    Noted (Option (Except (SimulationError α) (SimulationResult α))) :=
  match runFault? scenario config with
  | some error => pure (some (.error error))
  | none => do
    let run := Run.start scenario (RandomSource.ofSeed config.seed)
    run.noteStart config.seed
    match (Progress.start run config.reportInterval).loopNaively config bound with
    | none => pure none
    | some (.failed progress error) => do
      Noted.ofNotes progress.notes
      pure (some (.error error))
    | some (.stopped progress reason) => do
      Noted.ofNotes progress.notes
      progress.run.noteEnd reason
      pure (some (.ok (Run.resultOf scenario config progress reason)))

/-! ## Both ways are the same -/

theorem Run.executeNaively_eq
    {run : Run α}
    (coherent : run.Coherent)
    (process : SurfaceProcess α)
    (pair : LivePair α) :
    run.executeNaively process pair = run.execute process pair := by
  have outcome :=
    process.perform.execute_surely (α := α) run.lattice pair.site run.random
  simp only [executeNaively, execute]
  generalize
    (process.perform.execute run.lattice pair.site).run run.random = performed
    at outcome ⊢
  rcases performed with ⟨answer, random⟩
  cases answer with
  | error error => rfl
  | ok event =>
      rcases outcome with ⟨state, chosen, picks, rfl⟩
      have settled := absorb_eq_recount picks coherent
      dsimp only
      generalize
        run.recount (process.perform.event run.lattice pair.site chosen) =
          recounted
        at settled ⊢
      subst settled
      rfl

theorem Run.advanceNaively_eq
    {run : Run α}
    (coherent : run.Coherent) :
    run.advanceNaively = run.advance := by
  rw [advanceNaively, advance]
  rcases run.choose with fault | ⟨choice, random⟩
  · rfl
  cases choice with
  | stalled reason => rfl
  | selected pair =>
      have drawn : ({ run with random } : Run α).Coherent :=
        { counted := coherent.counted
          table_eq := coherent.table_eq }
      dsimp only
      cases run.scenario.processes[pair.process]? with
      | none => rfl
      | some process =>
          have executed := executeNaively_eq drawn process pair
          dsimp only
          generalize
            ({ run with random } : Run α).executeNaively process pair = outcome
            at executed ⊢
          subst executed
          rfl

theorem Progress.nextNaively_eq
    {progress : Progress α}
    (coherent : progress.run.Coherent)
    (config : RunConfig α) :
    progress.nextNaively config = progress.next config := by
  have advanced := Run.advanceNaively_eq coherent
  simp only [nextNaively, next]
  generalize progress.run.advanceNaively = outcome at advanced ⊢
  subst advanced
  rfl

theorem Progress.loopNaively_eq
    {progress : Progress α}
    (coherent : progress.run.Coherent)
    (config : RunConfig α)
    (bound : Nat) :
    progress.loopNaively config bound = progress.loop config bound := by
  induction bound generalizing progress with
  | zero => rfl
  | succ bound induction =>
      rw [loopNaively, loop, nextNaively_eq coherent]
      cases stepped : progress.next config with
      | error runEnd => rfl
      | ok later =>
          rcases next_ok stepped with ⟨⟨process, pair, moved⟩, _⟩
          rcases Run.advance_moved moved with ⟨state, chosen, moves⟩
          exact induction (moves.coherent coherent)

/-- Bringing the affected sites up to date refines recomputing everything. -/
theorem incremental_refines_recomputation
    {scenario : Scenario α}
    (built : scenario.Built)
    (config : RunConfig α) :
    (∀ run,
      (Run.initial scenario config).Reaches run →
        (∀ site,
          run.lattice.cachedCount site = run.lattice.occupiedNeighbours site) ∧
        run.table =
          EventTable.build scenario.conditions scenario.processes
            run.lattice) ∧
      ∀ bound,
        solve? bound scenario config = solveNaively? bound scenario config := by
  have start :=
    Run.coherent_start built.counted (RandomSource.ofSeed config.seed)
  constructor
  · intro run reached
    have coherent := reached.coherent start
    have scenarioEq : run.scenario = scenario := reached.scenario_eq
    refine ⟨coherent.counted, ?_⟩
    rw [coherent.table_eq, scenarioEq]
  · intro bound
    have loops :
        (Progress.start (Run.initial scenario config)
            config.reportInterval).loopNaively config bound =
          (Progress.start (Run.initial scenario config)
            config.reportInterval).loop config bound :=
      Progress.loopNaively_eq start config bound
    rw [Run.initial] at loops
    simp only [solve?, solveNaively?]
    generalize
      (Progress.start (Run.start scenario (RandomSource.ofSeed config.seed))
          config.reportInterval).loopNaively config bound =
        runEnd
      at loops ⊢
    subst loops
    rfl

/-- Two level columns of a small lattice grow together. -/
def twinGrowth : Scenario Float :=
  Scenario.assemble
    (Lattice.ofConfig
      { kind := .simpleCubic
        columns := 2
        rows := 2
        initialHeight := 1
        label := "Cu" })
    [{ descriptor :=
        { name := "twins"
          category := .adsorption
          reaction := "2Cu + 2* = 2Cu*"
          reactants := ["2Cu", "2*"]
          products := ["2Cu*"]
          species := ["Cu"]
          energetics := { values := [1.0], options := [] }
          stoichiometry := none }
       species := "Cu"
       mode := .height
       rule := .sameHeightNeighbours 1
       rateLaw := .constant 1.0
       perform := .raiseHeight 2 }]
    { temperature := 300.0, pressure := 0.0 }

def twinConfig : RunConfig Float := { limit := .steps 3, seed := 42 }

theorem incremental_refines_recomputation_twins :
    twinGrowth.Built ∧
      ∃ run,
        (Run.initial twinGrowth twinConfig).Reaches run ∧
          run.step = 3 ∧
            (∀ site,
              run.lattice.cachedCount site =
                run.lattice.occupiedNeighbours site) ∧
              run.table =
                EventTable.build twinGrowth.conditions twinGrowth.processes
                  run.lattice ∧
                solve? 4 twinGrowth twinConfig =
                  solveNaively? 4 twinGrowth twinConfig := by
  have built : twinGrowth.Built := .assembled _ _ _
  rcases incremental_refines_recomputation built twinConfig with
    ⟨recounted, same⟩
  have ahead : ((Run.initial twinGrowth twinConfig).after 3).isSome = true := by
    decide +kernel
  rcases Option.isSome_iff_exists.mp ahead with ⟨run, found⟩
  rcases Run.reaches_of_after found with ⟨reached, stepEq⟩
  rcases recounted run reached with ⟨counted, rebuilt⟩
  exact ⟨built, run, reached, stepEq, counted, rebuilt, same 4⟩

end SurfaceKinetics
