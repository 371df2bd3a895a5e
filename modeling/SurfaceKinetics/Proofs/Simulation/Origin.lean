import SurfaceKinetics.Proofs.Lattice.Frame
import SurfaceKinetics.Proofs.SurfaceProcess.Service
import SurfaceKinetics.Simulation.Scenario

/-!
# Where scenarios come from

A scenario is assembled from a lattice, processes and conditions, or it is what
an input defines.  Either way its lattice is counted in its own coordination.
An input yields a new lattice of a configuration without faults, and processes
that have been bound.
-/

namespace SurfaceKinetics

namespace Scenario

variable {α : Type}

/-- The lattice of an assembled scenario has faithful caches. -/
theorem counted_assemble
    (lattice : Lattice)
    (processes : List (SurfaceProcess α))
    (conditions : Conditions α) :
    (assemble lattice processes conditions).lattice.Counted :=
  lattice.counted_withCoordination _

variable [Quantity α]

/-- The processes of a scenario without faults have none. -/
theorem processesFault?_eq_none
    {taken : List String}
    {processes : List (SurfaceProcess α)}
    (faultless : processesFault? taken processes = none)
    {process : SurfaceProcess α}
    (member : process ∈ processes) :
    process.fault? = none := by
  induction processes generalizing taken with
  | nil => cases member
  | cons first rest induction =>
      rw [processesFault?] at faultless
      split at faultless
      · cases faultless
      · next firstFaultless =>
          split at faultless
          · cases faultless
          · rcases List.mem_cons.mp member with rfl | later
            · exact firstFaultless
            · exact induction faultless later

theorem process_fault?_of_fault?
    {scenario : Scenario α}
    (faultless : scenario.fault? = none)
    {process : SurfaceProcess α}
    (member : process ∈ scenario.processes) :
    process.fault? = none := by
  rw [fault?] at faultless
  split at faultless
  · cases faultless
  · exact processesFault?_eq_none faultless member

theorem conditions_fault?_of_fault?
    {scenario : Scenario α}
    (faultless : scenario.fault? = none) :
    scenario.conditions.fault? = none := by
  rw [fault?] at faultless
  split at faultless
  · cases faultless
  · next conditionsFaultless => exact conditionsFaultless

/-- The process that a descriptor is bound to, if it can be bound. -/
def bound?
    (registry : Registry α)
    (growth : List String)
    (descriptor : Descriptor α) :
    Option (SurfaceProcess α) :=
  (SurfaceProcess.bind descriptor registry growth).value.toOption

theorem bound?_eq_some_iff
    {registry : Registry α}
    {growth : List String}
    {descriptor : Descriptor α}
    {process : SurfaceProcess α} :
    bound? registry growth descriptor = some process ↔
      (SurfaceProcess.bind descriptor registry growth).value = .ok process := by
  rw [bound?]
  cases (SurfaceProcess.bind descriptor registry growth).value <;>
    simp [Except.toOption]

/-- Binding skips the descriptors that cannot be bound, and nothing else. -/
theorem value_bindAll
    (registry : Registry α)
    (growth : List String)
    (descriptors : List (Descriptor α)) :
    (bindAll registry growth descriptors).value =
      descriptors.filterMap (bound? registry growth) := by
  induction descriptors with
  | nil => rfl
  | cons descriptor rest induction =>
      rw [bindAll, Noted.value_bind, List.filterMap_cons, bound?]
      cases (SurfaceProcess.bind descriptor registry growth).value with
      | ok process => exact congrArg (process :: ·) induction
      | error fault => exact induction

/-- The processes of a binding are bound descriptors. -/
theorem mem_bindAll
    {registry : Registry α}
    {growth : List String}
    {descriptors : List (Descriptor α)}
    {process : SurfaceProcess α}
    (member : process ∈ (bindAll registry growth descriptors).value) :
    ∃ descriptor ∈ descriptors,
      (SurfaceProcess.bind descriptor registry growth).value = .ok process := by
  rw [value_bindAll] at member
  rcases List.mem_filterMap.mp member with ⟨descriptor, descriptorMember, bound⟩
  exact ⟨descriptor, descriptorMember, bound?_eq_some_iff.mp bound⟩

/-- What an input must be for a scenario to come from it. -/
structure Comes (input : SimulationInput α) (scenario : Scenario α) : Prop where
  assembled :
    ∃ config,
      input.lattice = some config ∧
        config.fault? = none ∧
          scenario.lattice =
            (Lattice.ofConfig config).withCoordination
              (coordinationOf scenario.processes)
  faultless : scenario.fault? = none
  bound :
    ∀ process ∈ scenario.processes,
      ∃ descriptor ∈ input.registry.processes,
        (SurfaceProcess.bind descriptor input.registry
          input.growthSpecies).value = .ok process

theorem onLattice_ok
    {input : SimulationInput α}
    {lattice : Lattice}
    {conditions : Conditions α}
    {scenario : Scenario α}
    (value : (onLattice input lattice conditions).value = .ok scenario) :
    scenario.lattice =
        lattice.withCoordination (coordinationOf scenario.processes) ∧
      scenario.fault? = none ∧
        ∀ process ∈ scenario.processes,
          ∃ descriptor ∈ input.registry.processes,
            (SurfaceProcess.bind descriptor input.registry
              input.growthSpecies).value = .ok process := by
  simp only [onLattice, checked, Noted.value_bind, Noted.value_pure] at value
  split at value
  · cases value
  · next faultless =>
      cases value
      exact ⟨rfl, faultless, fun process member => mem_bindAll member⟩

theorem comes_of_ofInput
    {input : SimulationInput α}
    {scenario : Scenario α}
    (value : (ofInput input).value = .ok scenario) :
    Comes input scenario := by
  unfold ofInput at value
  split at value
  · cases value
  · cases value
  · next config temperature found _ =>
      rw [Noted.value_bind] at value
      cases checked : config.fault? with
      | some fault =>
          simp only [Lattice.build, checked] at value
          cases value
      | none =>
          simp only [Lattice.build, checked, pure, Except.pure,
            Noted.value_bind] at value
          rcases onLattice_ok value with ⟨latticeEq, faultless, bound⟩
          exact
            { assembled := ⟨config, found, checked, latticeEq⟩
              faultless
              bound }

/-- The scenario that a text defines, if it defines one. -/
def ofText? (text : String) : Option (Scenario α) := do
  let input ← (SimulationInput.read text).value.toOption
  (ofInput input).value.toOption

theorem ofInput_of_ofText?
    {text : String}
    {scenario : Scenario α}
    (found : ofText? text = some scenario) :
    ∃ input,
      (SimulationInput.read text).value = .ok input ∧
        (ofInput input).value = .ok scenario := by
  rw [ofText?] at found
  cases read : (SimulationInput.read (α := α) text).value with
  | error error =>
      rw [read] at found
      cases found
  | ok input =>
      rw [read] at found
      cases defined : (ofInput input).value with
      | error error =>
          simp [defined, Except.toOption] at found
      | ok other =>
          simp only [defined, Except.toOption, Option.bind_eq_bind,
            Option.bind_some, Option.some.injEq] at found
          subst found
          exact ⟨input, rfl, defined⟩

/-- A scenario is assembled from its parts, or it is what an input defines. -/
inductive Built : Scenario α → Prop where
  | assembled
      (lattice : Lattice)
      (processes : List (SurfaceProcess α))
      (conditions : Conditions α) :
      Built (assemble lattice processes conditions)
  | ofInput
      {input : SimulationInput α}
      {scenario : Scenario α}
      (value : (ofInput input).value = .ok scenario) :
      Built scenario

theorem Comes.counted
    {input : SimulationInput α}
    {scenario : Scenario α}
    (comes : Comes input scenario) :
    scenario.lattice.Counted := by
  rcases comes.assembled with ⟨config, _, _, latticeEq⟩
  rw [latticeEq]
  exact Lattice.counted_withCoordination _ _

/-- The rules of an input's processes serve their performs. -/
theorem Comes.serves
    {input : SimulationInput α}
    {scenario : Scenario α}
    (comes : Comes input scenario)
    {process : SurfaceProcess α}
    (member : process ∈ scenario.processes) :
    process.rule.Serves process.perform := by
  rcases comes.bound process member with ⟨descriptor, _, bound⟩
  exact SurfaceProcess.serves_of_bind bound

theorem Built.counted
    {scenario : Scenario α}
    (built : scenario.Built) :
    scenario.lattice.Counted := by
  cases built with
  | assembled lattice processes conditions =>
      exact counted_assemble lattice processes conditions
  | ofInput value => exact (comes_of_ofInput value).counted

end Scenario

end SurfaceKinetics
