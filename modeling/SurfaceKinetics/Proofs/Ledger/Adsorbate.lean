import SurfaceKinetics.Proofs.Ledger.Holding
import SurfaceKinetics.Proofs.Simulation.Substrate

/-!
# The adsorbate ledger

The number of sites that hold a species is a ledger over the events of a run.
The label of any species other than the substrate is counted exactly where the
species is held, and the coverages that samples show are the same ledger.
-/

namespace SurfaceKinetics

namespace Lattice

theorem countHolding_new
    (config : LatticeConfig)
    (coordination : Coordination)
    (species : String) :
    ((ofConfig config).withCoordination coordination).countHolding species =
      0 := by
  rw [countHolding, List.countP_eq_zero]
  intro state member
  rcases List.mem_iff_getElem?.mp member with ⟨site, found⟩
  rw [Array.getElem?_toList] at found
  rcases site?_new found with ⟨height, rfl⟩
  exact Bool.false_ne_true

/-- Other labels than the one below are counted where they are held. -/
theorem RestsOn.countLabel_eq
    {label : String}
    {lattice : Lattice}
    (rests : lattice.RestsOn label)
    {species : String}
    (other : species ≠ label) :
    lattice.countLabel species = lattice.countHolding species := by
  apply List.countP_congr
  intro state member
  rcases List.mem_iff_getElem?.mp member with ⟨site, found⟩
  rw [Array.getElem?_toList] at found
  have rest := rests site state found
  rw [Site.holds]
  cases occupied : state.occupied with
  | true => simp
  | false =>
      have bare := rest.bare occupied
      simp [bare, Ne.symm other]

end Lattice

/-! ## Runs -/

variable {α : Type} [Quantity α]

namespace Run

section Input

variable
    {input : SimulationInput α}
    {scenario : Scenario α}
    (comes : Scenario.Comes input scenario)
    {random : RandomSource}
    {run : Run α}
    (reached : (start scenario random).Reaches run)

include comes reached

/-- What is held is a ledger over the events of a run. -/
theorem Reaches.countHolding_eq (species : String) :
    (run.lattice.countHolding species : Int) =
      ledger (SurfaceProcess.holdingChange · species) scenario.processes
        run.events := by
  rcases comes.assembled with ⟨config, _, _, latticeEq⟩
  rw [reached.ledger_eq (fun run => (run.lattice.countHolding species : Int))
    (SurfaceProcess.holdingChange · species)]
  · have vacant :
        (start scenario random).lattice.countHolding species = 0 := by
      show scenario.lattice.countHolding species = 0
      rw [latticeEq, Lattice.countHolding_new]
    rw [vacant]
    exact Int.zero_add _
  · intro run next process pair earlier moved
    rcases advance_moved moved with ⟨state, chosen, moves⟩
    exact
      moves.countHolding_eq (earlier.coherent_of_comes comes)
        (comes.serves (earlier.process_mem moves)) species

theorem Reaches.countLabel_eq
    {species : String}
    (other : species ≠ scenario.lattice.config.label) :
    (run.lattice.countLabel species : Int) =
      ledger (SurfaceProcess.holdingChange · species) scenario.processes
        run.events := by
  rw [(reached.restsOn comes).countLabel_eq other,
    reached.countHolding_eq comes]

end Input

end Run

/-! ## Samples -/

/-- A lattice of a configuration without faults has sites. -/
theorem LatticeConfig.size_ne_zero
    {config : LatticeConfig}
    (faultless : config.fault? = none) :
    config.size ≠ 0 := by
  rw [fault?] at faultless
  split at faultless
  · cases faultless
  · next sized =>
      rw [not_or] at sized
      exact Nat.mul_ne_zero sized.1 sized.2

theorem Surface.coverage_eq
    {lattice : Lattice}
    (sized : lattice.size ≠ 0)
    {species : String}
    {number : Int}
    (counted : (lattice.countLabel species : Int) = number) :
    coverage lattice species =
      (Quantity.ofInt number / Quantity.ofNat lattice.size : α) := by
  rw [coverage, if_neg sized, Quantity.ofNat, counted]

/--
The sites that hold a species, the sites that show its label unless it is the
substrate, and the coverages of all samples are one ledger over the events.
-/
theorem adsorbates_balance
    {input : SimulationInput α}
    {scenario : Scenario α}
    (defined : (Scenario.ofInput input).value = .ok scenario)
    (config : RunConfig α) :
    (∀ run species,
      (Run.initial scenario config).Reaches run →
        (run.lattice.countHolding species : Int) =
            ledger (SurfaceProcess.holdingChange · species) scenario.processes
              run.events ∧
          (species ≠ scenario.lattice.config.label →
            (run.lattice.countLabel species : Int) =
              ledger (SurfaceProcess.holdingChange · species)
                scenario.processes run.events)) ∧
      ∀ bound result,
        (solve? bound scenario config).value = some (.ok result) →
          ∀ sample ∈ result.samples,
            ∀ (index : Nat) (process : SurfaceProcess α),
              scenario.processes[index]? = some process →
                process.species ≠ scenario.lattice.config.label →
                  sample.coverage[index]? =
                    some
                      (Quantity.ofInt
                          (ledger
                            (SurfaceProcess.holdingChange · process.species)
                            scenario.processes sample.events) /
                        Quantity.ofNat scenario.lattice.size) := by
  have comes := Scenario.comes_of_ofInput defined
  constructor
  · intro run species reached
    exact
      ⟨reached.countHolding_eq comes species,
        fun other => reached.countLabel_eq comes other⟩
  · intro bound result solved sample member index process found other
    rcases solve?_ok solved with ⟨_, final, reason, sound, rfl⟩
    rcases sound.mem_finalSamples member with ⟨run, reached, rfl⟩
    have sizeEq : run.lattice.size = scenario.lattice.size := by
      rw [Lattice.size_eq, Lattice.size_eq, reached.config_eq]
      rfl
    have sized : run.lattice.size ≠ 0 := by
      rcases comes.assembled with ⟨latticeConfig, _, faultless, latticeEq⟩
      rw [sizeEq, Lattice.size_eq, latticeEq, Lattice.config_new]
      exact LatticeConfig.size_ne_zero faultless
    have scenarioEq : run.scenario = scenario := reached.scenario_eq
    have counted := reached.countLabel_eq comes other
    show (run.scenario.processes.map _)[index]? = _
    rw [scenarioEq, List.getElem?_map, found, Option.map_some,
      Surface.coverage_eq sized counted, sizeEq]
    rfl

/-- Two species that adsorb, react with each other and leave together. -/
def couplingText : String :=
  "build_lattice FCC 2 2 10 Cu\n" ++
    "nspecies 3\n" ++
    "A 10\n" ++
    "AB 30\n" ++
    "B 20\n" ++
    "nprocesses 4\n" ++
    "A + * + * -> 2A*, 1.0\n" ++
    "B + * -> B*, 1.0\n" ++
    "A* + B* -> AB*, 2.0\n" ++
    "AB* -> AB + *, 1.0\n" ++
    "temperature 500\n"

def couplingConfig : RunConfig Float := { limit := .steps 4, seed := 6 }

theorem adsorbates_balance_coupling :
    ∃ input scenario result,
      (SimulationInput.read couplingText).value = .ok input ∧
        (Scenario.ofInput input).value = .ok scenario ∧
          (solve? 5 scenario couplingConfig).value = some (.ok result) ∧
            result.eventCounts = [1, 1, 1, 1] ∧
              (result.lattice.countLabel "A" : Int) =
                ledger (SurfaceProcess.holdingChange · "A")
                  scenario.processes [1, 1, 1, 1] ∧
                ∀ sample ∈ result.samples,
                  ∀ (index : Nat) (process : SurfaceProcess Float),
                    scenario.processes[index]? = some process →
                      sample.coverage[index]? =
                        some
                          (Quantity.ofInt
                              (ledger
                                (SurfaceProcess.holdingChange · process.species)
                                scenario.processes sample.events) /
                            Quantity.ofNat scenario.lattice.size) := by
  have ahead :
      ((Scenario.ofText? couplingText).any fun scenario =>
        ("A" :: scenario.processes.map SurfaceProcess.species).all
            (· ≠ scenario.lattice.config.label) &&
          (result? 5 scenario couplingConfig).any fun result =>
            result.eventCounts == [1, 1, 1, 1]) = true := by
    decide +kernel
  rcases (Option.any_eq_true _ _).mp ahead with ⟨scenario, found, checked⟩
  rcases Scenario.ofInput_of_ofText? found with ⟨input, read, defined⟩
  rcases adsorbates_balance defined couplingConfig with ⟨balance, coverages⟩
  rcases Bool.and_eq_true_iff.mp checked with ⟨others, solves⟩
  rw [List.all_eq_true] at others
  rcases (Option.any_eq_true _ _).mp solves with ⟨result, resultFound, counted⟩
  have solved := solve?_of_result? resultFound
  have counts : result.eventCounts = [1, 1, 1, 1] := eq_of_beq counted
  rcases solve?_ok solved with ⟨_, final, _, sound, rfl⟩
  have labelled :=
    (balance final.run "A" sound.reached).2 <|
      of_decide_eq_true (others "A" List.mem_cons_self)
  refine ⟨input, scenario, _, read, defined, solved, counts, ?_, ?_⟩
  · rw [← counts]
    exact labelled
  · intro sample member index process processFound
    have speciesMember :
        process.species ∈
          "A" :: scenario.processes.map SurfaceProcess.species :=
      List.mem_cons_of_mem _ <|
        List.mem_map_of_mem (List.mem_of_getElem? processFound)
    exact
      coverages 5 _ solved sample member index process processFound <|
        of_decide_eq_true (others _ speciesMember)

end SurfaceKinetics
