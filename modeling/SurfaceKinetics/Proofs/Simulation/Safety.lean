import SurfaceKinetics.Proofs.Simulation.Coherence
import SurfaceKinetics.Proofs.Simulation.Origin
import SurfaceKinetics.Proofs.Simulation.Solving

/-!
# Safety of runs

A coherent run selects events whose rules hold where they happen.  When every
rule serves its perform, as after binding, no such event fails: a run breaks for
a total rate that is not a finite number and for nothing else.
-/

namespace SurfaceKinetics

variable {α : Type} [Quantity α]

namespace Run

/-- Only a total rate that is undefined or infinite has a fault. -/
theorem totalFault?_eq_some
    {total : α}
    {step : Nat}
    {fault : NumericalFault}
    (found : totalFault? total step = some fault) :
    Quantity.isUndefined total = true ∨ Quantity.isFinite total = false := by
  rw [totalFault?] at found
  split at found
  · next undefined => exact Or.inl undefined
  · split at found
    · cases found
    · next infinite => exact Or.inr (Bool.eq_false_iff.mpr infinite)

/-- Served performs leave the total rate as the only reason to break. -/
theorem Coherent.total_of_breaks
    {run : Run α}
    (coherent : run.Coherent)
    (served :
      ∀ process ∈ run.scenario.processes,
        process.rule.Serves process.perform)
    {error : SimulationError α}
    (breaks : run.Breaks error) :
    ∃ fault,
      error = .numerical fault ∧
        (Quantity.isUndefined run.table.totalRate = true ∨
          Quantity.isFinite run.table.totalRate = false) := by
  cases breaks with
  | total found => exact ⟨_, rfl, totalFault?_eq_some found⟩
  | event processEq live fails =>
      have eligible := coherent.eligible processEq live
      have serves := served _ (List.mem_of_getElem? processEq)
      exact absurd fails (serves.not_fails eligible)

end Run

/--
Rules and performs agree over whole runs: what an input defines fails for its
configuration or for a total rate, and every event happens inside the lattice,
where its rule holds, at a stored rate that is not at most zero.
-/
theorem rules_guarantee_performs
    {input : SimulationInput α}
    {scenario : Scenario α}
    (defined : (Scenario.ofInput input).value = .ok scenario)
    (config : RunConfig α) :
    (∀ bound error,
      (solve? bound scenario config).value = some (.error error) →
        (∃ fault,
          config.fault? = some fault ∧ error = .configuration fault) ∨
        ∃ run fault,
          (Run.initial scenario config).Reaches run ∧
            error = .numerical fault ∧
              (Quantity.isUndefined run.table.totalRate = true ∨
                Quantity.isFinite run.table.totalRate = false)) ∧
      ∀ run next process pair,
        (Run.initial scenario config).Reaches run →
          run.advance = .moved next process pair →
            scenario.processes[pair.process]? = some process ∧
              pair.site < run.lattice.size ∧
                process.rule.isEligible run.lattice pair.site = true ∧
                  pair ∈ run.table.pairs ∧
                    ¬ pair.rate ≤ Quantity.zero := by
  have comes := Scenario.comes_of_ofInput defined
  have start :=
    Run.coherent_start comes.counted (RandomSource.ofSeed config.seed)
  constructor
  · intro bound error failed
    rcases solve?_error failed with fault | ⟨run, reached, breaks⟩
    · rw [runFault?, comes.faultless] at fault
      split at fault
      · next configFault found =>
          cases fault
          exact Or.inl ⟨configFault, found, rfl⟩
      · cases fault
    · have served :
          ∀ process ∈ run.scenario.processes,
            process.rule.Serves process.perform := by
        rw [reached.scenario_eq]
        exact fun process member => comes.serves member
      rcases (reached.coherent start).total_of_breaks served breaks with
        ⟨fault, errorEq, total⟩
      exact Or.inr ⟨run, fault, reached, errorEq, total⟩
  · intro run next process pair reached moved
    have coherent := reached.coherent start
    have scenarioEq : run.scenario = scenario := reached.scenario_eq
    rcases Run.advance_moved moved with ⟨state, chosen, moves⟩
    exact
      ⟨scenarioEq ▸ moves.process_eq,
        run.lattice.lt_size_of_site? moves.picks.found,
        coherent.eligible moves.process_eq moves.live, moves.live,
        moves.positive⟩

/-- A copper film that grows by pairs, evaporates and rearranges. -/
def filmText : String :=
  "build_lattice SimpleCubic 2 2 1 Cu\n" ++
    "nspecies 1\n" ++
    "Cu 63.546\n" ++
    "nprocesses 3\n" ++
    "Cu + * + * -> 2Cu*, 1.0\n" ++
    "Cu* -> Cu + *, 0.5\n" ++
    "Cu* -> *Cu, 1.0\n" ++
    "temperature 500\n"

def filmConfig : RunConfig Float := { limit := .steps 3, seed := 6 }

theorem rules_guarantee_performs_film :
    ∃ input scenario,
      (SimulationInput.read filmText).value = .ok input ∧
        (Scenario.ofInput input).value = .ok scenario ∧
          (∀ bound fault,
            (solve? bound scenario filmConfig).value ≠
              some (.error (.process fault))) ∧
            ∃ run next process pair,
              (Run.initial scenario filmConfig).Reaches run ∧
                run.advance = .moved next process pair ∧
                  next.step = 3 ∧
                    pair.site < run.lattice.size ∧
                      process.rule.isEligible run.lattice pair.site = true ∧
                        ¬ pair.rate ≤ Quantity.zero := by
  have ahead :
      ((Scenario.ofText? filmText).any fun scenario =>
        ((Run.initial scenario filmConfig).after 3).isSome) = true := by
    decide +kernel
  rcases (Option.any_eq_true _ _).mp ahead with ⟨scenario, found, isSome⟩
  rcases Option.isSome_iff_exists.mp isSome with ⟨next, nextFound⟩
  rcases Run.reaches_of_after nextFound with ⟨reached, stepEq⟩
  rcases Scenario.ofInput_of_ofText? found with ⟨input, read, defined⟩
  rcases rules_guarantee_performs defined filmConfig with ⟨failures, events⟩
  refine ⟨input, scenario, read, defined, ?_, ?_⟩
  · intro bound fault failed
    rcases failures bound _ failed with ⟨_, _, equal⟩ | ⟨_, _, _, equal, _⟩
    · cases equal
    · cases equal
  · cases reached with
    | refl => cases stepEq
    | moved earlier step =>
        rcases events _ _ _ _ earlier step with
          ⟨_, inside, eligible, _, positive⟩
        exact
          ⟨_, next, _, _, earlier, step, stepEq, inside, eligible, positive⟩

end SurfaceKinetics
