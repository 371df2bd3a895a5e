import SurfaceKinetics.Proofs.Simulation.Origin
import SurfaceKinetics.Proofs.Simulation.Solving

/-!
# How a lattice is coordinated

A bound process is in height mode exactly when its event changes heights and it
is no reaction.  So an input's lattice is coordinated by height when a process
other than a reaction changes heights, and by occupancy otherwise.  A reaction
that grows the film is in label mode all the same: where reactions alone change
heights, the film grows on a lattice that is coordinated by occupancy.
-/

namespace SurfaceKinetics

namespace Perform

/-- Whether an event changes the heights of columns. -/
def changesHeights : Perform → Bool
  | raiseHeight _ => true
  | lowerHeight _ => true
  | hopHeight => true
  | react _ _ grows => grows
  | _ => false

end Perform

variable {α : Type}

/-- Binding in height mode means a change of heights that is no reaction. -/
theorem Binding.modeOf_eq_height_iff
    (vocabulary : Vocabulary)
    (descriptor : Descriptor α)
    (growth : List String)
    (species : String) :
    modeOf descriptor.category species growth = .height ↔
      (parts vocabulary descriptor growth species).2.changesHeights = true ∧
        descriptor.category ≠ .reaction := by
  have other :
      ∀ category, descriptor.category = category → category ≠ .reaction →
        descriptor.category ≠ .reaction := by
    rintro category rfl distinct
    exact distinct
  rw [parts]
  split
  · next categoryEq modeEq =>
      exact iff_of_true modeEq ⟨rfl, other _ categoryEq (by decide)⟩
  · next modeEq =>
      exact iff_of_false (by simp [modeEq]) (by simp [Perform.changesHeights])
  · next categoryEq modeEq =>
      exact iff_of_true modeEq ⟨rfl, other _ categoryEq (by decide)⟩
  · next modeEq =>
      exact iff_of_false (by simp [modeEq]) (by simp [Perform.changesHeights])
  · next categoryEq modeEq =>
      exact iff_of_true modeEq ⟨rfl, other _ categoryEq (by decide)⟩
  · next modeEq =>
      exact iff_of_false (by simp [modeEq]) (by simp [Perform.changesHeights])
  · next categoryEq =>
      exact
        iff_of_false (by simp [categoryEq, modeOf])
          fun both => both.2 categoryEq

theorem SurfaceProcess.mode_eq_height_iff
    [Quantity α]
    {descriptor : Descriptor α}
    {registry : Registry α}
    {growth : List String}
    {process : SurfaceProcess α}
    (bound : (bind descriptor registry growth).value = .ok process) :
    process.mode = .height ↔
      process.perform.changesHeights = true ∧
        process.category ≠ .reaction := by
  rcases Binding.assemble_ok (assembled_of_bind bound).1 with
    ⟨species, descriptorEq, modeEq, _, performEq⟩
  rw [modeEq, performEq, category, descriptorEq]
  exact Binding.modeOf_eq_height_iff _ _ _ _

namespace Scenario

theorem coordinationOf_eq_height_iff {processes : List (SurfaceProcess α)} :
    coordinationOf processes = .height ↔
      ∃ process ∈ processes, process.mode = .height := by
  rw [coordinationOf]
  split
  · next found => simpa using found
  · next absent => simpa using absent

/-- Reactions change heights, and no process besides them does. -/
def GrowsByReactionsOnly (scenario : Scenario α) : Prop :=
  (∃ process ∈ scenario.processes, process.perform.changesHeights = true) ∧
    ∀ process ∈ scenario.processes,
      process.perform.changesHeights = true → process.category = .reaction

variable [Quantity α]

theorem Comes.coordination_eq
    {input : SimulationInput α}
    {scenario : Scenario α}
    (comes : Comes input scenario) :
    scenario.lattice.coordination = coordinationOf scenario.processes := by
  rcases comes.assembled with ⟨config, _, _, latticeEq⟩
  rw [latticeEq, Lattice.withCoordination, Lattice.refreshAll,
    Lattice.coordination_refreshMany]

/-- A lattice is coordinated by height for a process that is no reaction. -/
theorem Comes.coordination_eq_height_iff
    {input : SimulationInput α}
    {scenario : Scenario α}
    (comes : Comes input scenario) :
    scenario.lattice.coordination = .height ↔
      ∃ process ∈ scenario.processes,
        process.perform.changesHeights = true ∧
          process.category ≠ .reaction := by
  rw [comes.coordination_eq, coordinationOf_eq_height_iff]
  refine exists_congr fun process => and_congr_right fun member => ?_
  rcases comes.bound process member with ⟨descriptor, _, bound⟩
  exact SurfaceProcess.mode_eq_height_iff bound

end Scenario

theorem Coordination.eq_occupancy_iff (coordination : Coordination) :
    coordination = .occupancy ↔ ¬ coordination = .height := by
  cases coordination <;> decide

variable [Quantity α]

/--
A lattice is coordinated by height when a process other than a reaction changes
heights, and by occupancy otherwise.  So coordination follows growth unless the
film grows by reactions only.
-/
theorem coordination_follows_growth
    {input : SimulationInput α}
    {scenario : Scenario α}
    (defined : (Scenario.ofInput input).value = .ok scenario) :
    (scenario.lattice.coordination = .height ↔
        ∃ process ∈ scenario.processes,
          process.perform.changesHeights = true ∧
            process.category ≠ .reaction) ∧
      (scenario.lattice.coordination = .occupancy ↔
        ∀ process ∈ scenario.processes,
          process.perform.changesHeights = true →
            process.category = .reaction) ∧
        ((scenario.lattice.coordination = .height ↔
            ∃ process ∈ scenario.processes,
              process.perform.changesHeights = true) ↔
          ¬ scenario.GrowsByReactionsOnly) := by
  have byHeight :=
    (Scenario.comes_of_ofInput defined).coordination_eq_height_iff
  refine ⟨byHeight, ?_, ?_⟩
  · rw [Coordination.eq_occupancy_iff, byHeight]
    push Not
    rfl
  · rw [byHeight, Scenario.GrowsByReactionsOnly, not_and]
    push Not
    constructor
    · exact Iff.mpr
    · intro moreover
      refine ⟨?_, moreover⟩
      rintro ⟨process, member, changes, _⟩
      exact ⟨process, member, changes⟩

/-- A vapour whose adsorbates leave copper behind, with other processes. -/
def vapourText (count : String) (others : String) : String :=
  "build_lattice SimpleCubic 2 2 5 Cu\n" ++
    "nspecies 2\n" ++
    "Cu 63.546\n" ++
    "P 120\n" ++
    "temperature 500\n" ++
    "nprocesses " ++ count ++ "\n" ++
    "P + * -> P*, 1.0\n" ++
    "P* + P* -> Cu, 1.0\n" ++
    others

/-- Copper from the vapour and copper that lands on the film. -/
def platingText : String := vapourText "3" "Cu + * -> Cu*, 1.0\n"

theorem coordination_follows_growth_plating :
    ∃ (input : SimulationInput Float) (scenario : Scenario Float),
      (SimulationInput.read platingText).value = .ok input ∧
        (Scenario.ofInput input).value = .ok scenario ∧
          scenario.processes.map (·.perform.changesHeights) =
              [false, true, true] ∧
            scenario.lattice.coordination = .height := by
  have ahead :
      ((Scenario.ofText? (α := Float) platingText).any fun scenario =>
        scenario.processes.map (·.perform.changesHeights) =
            [false, true, true] &&
          scenario.processes.any fun process =>
            process.perform.changesHeights &&
              process.category ≠ .reaction) = true := by
    decide +kernel
  rcases (Option.any_eq_true _ _).mp ahead with ⟨scenario, found, checked⟩
  rcases Scenario.ofInput_of_ofText? found with ⟨input, read, defined⟩
  simp only [Bool.and_eq_true, List.any_eq_true, decide_eq_true_eq] at checked
  exact
    ⟨input, scenario, read, defined, checked.1,
      (coordination_follows_growth defined).1.mpr checked.2⟩

def vapourConfig : RunConfig Float := { limit := .steps 4, seed := 1 }

/-- The film grows from the vapour on a lattice coordinated by occupancy. -/
theorem coordination_ignores_vapour :
    ∃ (input : SimulationInput Float) (scenario : Scenario Float)
      (run : Run Float),
      (SimulationInput.read (vapourText "2" "")).value = .ok input ∧
        (Scenario.ofInput input).value = .ok scenario ∧
          (∃ process ∈ scenario.processes,
            process.perform.changesHeights = true) ∧
            scenario.lattice.coordination = .occupancy ∧
              (Run.initial scenario vapourConfig).Reaches run ∧
                scenario.lattice.heights = [5, 5, 5, 5] ∧
                  6 ∈ run.lattice.heights := by
  have ahead :
      ((Scenario.ofText? (α := Float) (vapourText "2" "")).any fun scenario =>
        (scenario.processes.any (·.perform.changesHeights) &&
            scenario.lattice.coordination = .occupancy &&
              scenario.lattice.heights = [5, 5, 5, 5]) &&
          ((Run.initial scenario vapourConfig).after 4).any fun run =>
            run.lattice.heights.contains 6) = true := by
    decide +kernel
  rcases (Option.any_eq_true _ _).mp ahead with ⟨scenario, found, checked⟩
  rcases Scenario.ofInput_of_ofText? found with ⟨input, read, defined⟩
  simp only [Bool.and_eq_true, List.any_eq_true, Option.any_eq_true,
    decide_eq_true_eq, List.contains_iff_mem] at checked
  rcases checked with ⟨⟨⟨grows, coordinated⟩, level⟩, run, runFound, grown⟩
  exact
    ⟨input, scenario, run, read, defined, grows, coordinated,
      (Run.reaches_of_after runFound).1, level, grown⟩

end SurfaceKinetics
