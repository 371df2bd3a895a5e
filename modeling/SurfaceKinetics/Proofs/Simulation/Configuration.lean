import SurfaceKinetics.Proofs.Input.Filling
import SurfaceKinetics.Proofs.Lattice.Building
import SurfaceKinetics.Proofs.Quantity.Exact
import SurfaceKinetics.Proofs.Simulation.Origin

/-!
# Inputs that define no scenario

A scenario is refused for what is configured and never for its processes.  Those that
are bound have been looked at when they were bound, and their names are the names of
their descriptors, of which a filled registry has no two the same.  What is left are
the lattice, the temperature and the pressure; a pressure that is not given is zero.
-/

namespace SurfaceKinetics

/-- Quantities of which zero is finite and not negative. -/
class FiniteZero (α : Type) [Quantity α] : Prop where
  isFinite_zero : Quantity.isFinite (Quantity.zero : α) = true
  zero_le_zero : (Quantity.zero : α) ≤ Quantity.zero

instance {α : Type} [ExactQuantity α] : FiniteZero α where
  isFinite_zero := ExactQuantity.isFinite_eq _
  zero_le_zero := le_refl _

instance : FiniteZero Float where
  isFinite_zero := by decide +kernel
  zero_le_zero := by decide +kernel

variable {α : Type}

/-! ## Faults of a configuration -/

section Conditions

variable [Quantity α]

/-- A value is a finite and positive temperature. -/
def ProperTemperature (value : α) : Prop :=
  Quantity.isFinite value = true ∧ Quantity.zero < value

/-- A value is a finite and not negative pressure. -/
def ProperPressure (value : α) : Prop :=
  Quantity.isFinite value = true ∧ Quantity.zero ≤ value

theorem properTemperature_iff {value : α} :
    ProperTemperature value ↔
      (Quantity.isFinite value && Quantity.isPositive value) = true := by
  rw [Bool.and_eq_true, Quantity.isPositive, decide_eq_true_iff, ProperTemperature]

theorem properPressure_iff {value : α} :
    ProperPressure value ↔
      (Quantity.isFinite value && Quantity.isNonnegative value) = true := by
  rw [Bool.and_eq_true, Quantity.isNonnegative, decide_eq_true_iff, ProperPressure]

theorem Conditions.fault?_eq_none_iff {conditions : Conditions α} :
    conditions.fault? = none ↔
      ProperTemperature conditions.temperature ∧
        ProperPressure conditions.pressure := by
  rw [fault?, properTemperature_iff, properPressure_iff]
  generalize (Quantity.isFinite conditions.temperature && _) = temperature
  generalize (Quantity.isFinite conditions.pressure && _) = pressure
  cases temperature <;> cases pressure <;> simp

end Conditions

namespace Scenario

variable [Quantity α]

/-! ## Bound processes have no fault -/

theorem name_of_bind
    {registry : Registry α}
    {growth : List String}
    {descriptor : Descriptor α}
    {process : SurfaceProcess α}
    (bound :
      (SurfaceProcess.bind descriptor registry growth).value = .ok process) :
    process.name = descriptor.name := by
  rcases SurfaceProcess.assembled_of_bind bound with ⟨assembled, _⟩
  rcases Binding.assemble_ok assembled with ⟨_, descriptorEq, _⟩
  exact congrArg Descriptor.name descriptorEq

/-- Bound processes keep the names of their descriptors. -/
theorem names_bound_sublist
    (registry : Registry α)
    (growth : List String)
    (descriptors : List (Descriptor α)) :
    ((descriptors.filterMap (bound? registry growth)).map
        SurfaceProcess.name).Sublist
      (descriptors.map Descriptor.name) := by
  induction descriptors with
  | nil => exact .slnil
  | cons descriptor rest induction =>
      cases bound : bound? registry growth descriptor with
      | none =>
          rw [List.filterMap_cons_none bound]
          exact induction.cons _
      | some process =>
          rw [List.filterMap_cons_some bound, List.map_cons, List.map_cons,
            name_of_bind (bound?_eq_some_iff.mp bound)]
          exact induction.cons_cons _

/-- Processes without faults have none together where their names are distinct. -/
theorem processesFault?_of_distinct
    {taken : List String}
    {processes : List (SurfaceProcess α)}
    (faultless : ∀ process ∈ processes, process.fault? = none)
    (free : ∀ process ∈ processes, process.name ∉ taken)
    (distinct : (processes.map SurfaceProcess.name).Nodup) :
    processesFault? taken processes = none := by
  induction processes generalizing taken with
  | nil => rfl
  | cons first rest induction =>
      rcases List.forall_mem_cons.mp faultless with ⟨here, there⟩
      rcases List.forall_mem_cons.mp free with ⟨firstFree, restFree⟩
      rcases List.nodup_cons.mp distinct with ⟨new, distinct⟩
      rw [processesFault?, here]
      dsimp only
      rw [if_neg firstFree]
      refine induction there ?_ distinct
      intro process member
      refine List.not_mem_cons_of_ne_of_not_mem ?_ (restFree process member)
      intro same
      exact new (same ▸ List.mem_map_of_mem member)

theorem processesFault?_bound
    {registry : Registry α}
    (filled : registry.Filled)
    (growth : List String) :
    processesFault? []
        (registry.processes.filterMap (bound? registry growth)) =
      none := by
  apply processesFault?_of_distinct
  · intro process member
    rcases List.mem_filterMap.mp member with ⟨descriptor, _, bound⟩
    exact (SurfaceProcess.assembled_of_bind (bound?_eq_some_iff.mp bound)).2
  · exact fun _ _ => List.not_mem_nil
  · exact filled.indexed.nodup_names.sublist (names_bound_sublist _ _ _)

/-! ## What an input defines -/

/-- The conditions of an input with a temperature. -/
def conditionsOf (input : SimulationInput α) (temperature : α) : Conditions α :=
  { temperature, pressure := input.pressure.getD Quantity.zero }

theorem value_pressureOf (input : SimulationInput α) :
    (pressureOf input).value = input.pressure.getD Quantity.zero := by
  rw [pressureOf]
  cases input.pressure <;> rfl

theorem value_onLattice
    {input : SimulationInput α}
    (filled : input.registry.Filled)
    (lattice : Lattice)
    (conditions : Conditions α) :
    (onLattice input lattice conditions).value =
      match conditions.fault? with
      | some fault => .error (.configuration fault)
      | none =>
        .ok
          (assemble lattice
            (input.registry.processes.filterMap
              (bound? input.registry input.growthSpecies))
            conditions) := by
  simp only [onLattice, boundProcesses, checked, Noted.value_bind, Noted.value_pure,
    value_bindAll, fault?, assemble, processesFault?_bound filled]
  cases conditions.fault? <;> rfl

/-- A lattice and a temperature define a scenario unless something is at fault. -/
theorem value_ofInput
    {input : SimulationInput α}
    {config : LatticeConfig}
    (latticeEq : input.lattice = some config)
    {temperature : α}
    (temperatureEq : input.temperature = some temperature) :
    (ofInput input).value =
      match config.fault? with
      | some fault => .error (.lattice fault)
      | none =>
        (onLattice input (Lattice.ofConfig config)
          (conditionsOf input temperature)).value := by
  rw [ofInput, latticeEq, temperatureEq]
  dsimp only
  rw [Noted.value_bind, value_pressureOf, Lattice.build]
  cases config.fault? with
  | some fault => rfl
  | none => rfl

end Scenario

/-! ## Misconfigured inputs -/

/-- What keeps an input from defining a scenario. -/
inductive SimulationInput.Misconfigured
    [Quantity α]
    (input : SimulationInput α) : Prop where
  | noLattice (missing : input.lattice = none)
  | noTemperature (missing : input.temperature = none)
  | emptyDimension
      {config : LatticeConfig}
      (given : input.lattice = some config)
      (empty : config.columns = 0 ∨ config.rows = 0)
  | unevenSteps
      {config : LatticeConfig}
      {profile : StepProfile}
      (given : input.lattice = some config)
      (stepped : config.steps = some profile)
      (uneven : profile.count = 0 ∨ ¬ profile.count ∣ config.columns)
  | temperature
      {value : α}
      (given : input.temperature = some value)
      (improper : ¬ ProperTemperature value)
  | pressure
      {value : α}
      (given : input.pressure = some value)
      (improper : ¬ ProperPressure value)

section Misconfigured

variable
    [Quantity α]
    [FiniteZero α]
    {input : SimulationInput α}

theorem conditionsOf_fault?_eq_none_iff {temperature : α} :
    (Scenario.conditionsOf input temperature).fault? = none ↔
      ProperTemperature temperature ∧
        ∀ value, input.pressure = some value → ProperPressure value := by
  rw [Conditions.fault?_eq_none_iff, Scenario.conditionsOf]
  dsimp only
  cases input.pressure with
  | none =>
      exact
        and_congr_right fun _ =>
          iff_of_true ⟨FiniteZero.isFinite_zero, FiniteZero.zero_le_zero⟩ nofun
  | some value => simp

/-- With a lattice and a temperature, only faults make an input misconfigured. -/
theorem misconfigured_iff
    {config : LatticeConfig}
    (latticeEq : input.lattice = some config)
    {temperature : α}
    (temperatureEq : input.temperature = some temperature) :
    ¬ input.Misconfigured ↔
      config.fault? = none ∧
        (Scenario.conditionsOf input temperature).fault? = none := by
  rw [LatticeConfig.fault?_eq_none_iff, conditionsOf_fault?_eq_none_iff]
  constructor
  · intro proper
    refine ⟨⟨?_, ?_⟩, ?_, ?_⟩
    · exact fun empty => proper (.emptyDimension latticeEq empty)
    · exact fun _ stepped uneven => proper (.unevenSteps latticeEq stepped uneven)
    · exact by_contra fun improper => proper (.temperature temperatureEq improper)
    · intro value given
      exact by_contra fun improper => proper (.pressure given improper)
  · rintro ⟨⟨nonempty, even⟩, warm, pressed⟩ misconfigured
    cases misconfigured with
    | noLattice missing => cases latticeEq.symm.trans missing
    | noTemperature missing => cases temperatureEq.symm.trans missing
    | emptyDimension given empty =>
        cases latticeEq.symm.trans given
        exact nonempty empty
    | unevenSteps given stepped uneven =>
        cases latticeEq.symm.trans given
        exact even _ stepped uneven
    | temperature given improper =>
        cases temperatureEq.symm.trans given
        exact improper warm
    | pressure given improper => exact improper (pressed _ given)

instance (input : SimulationInput α) : Decidable input.Misconfigured :=
  match latticeEq : input.lattice, temperature_eq : input.temperature with
  | none, _ => isTrue (.noLattice latticeEq)
  | some _, none => isTrue (.noTemperature temperature_eq)
  | some config, some temperature =>
    decidable_of_iff
      (¬ (config.fault?.isNone = true ∧
        (Scenario.conditionsOf input temperature).fault?.isNone = true)) <| by
      rw [Option.isNone_iff_eq_none, Option.isNone_iff_eq_none,
        ← misconfigured_iff latticeEq temperature_eq, not_not]

theorem exists_error_of_misconfigured
    (filled : input.registry.Filled)
    (misconfigured : input.Misconfigured) :
    ∃ error, (Scenario.ofInput input).value = .error error := by
  cases latticeEq : input.lattice with
  | none => exact ⟨_, by rw [Scenario.ofInput, latticeEq]; rfl⟩
  | some config =>
      cases temperatureEq : input.temperature with
      | none => exact ⟨_, by rw [Scenario.ofInput, latticeEq, temperatureEq]; rfl⟩
      | some temperature =>
          rw [Scenario.value_ofInput latticeEq temperatureEq]
          cases latticeFault : config.fault? with
          | some fault => exact ⟨_, rfl⟩
          | none =>
              dsimp only
              rw [Scenario.value_onLattice filled]
              cases fault :
                  (Scenario.conditionsOf input temperature).fault? with
              | some fault => exact ⟨_, rfl⟩
              | none =>
                  have proper :=
                    (misconfigured_iff latticeEq temperatureEq).mpr
                      ⟨latticeFault, fault⟩
                  exact (proper misconfigured).elim

/-- The scenario of an input that is not misconfigured. -/
theorem exists_scenario
    (filled : input.registry.Filled)
    (proper : ¬ input.Misconfigured) :
    ∃ config temperature,
      input.lattice = some config ∧
        input.temperature = some temperature ∧
          (Scenario.ofInput input).value =
            .ok
              (Scenario.assemble (Lattice.ofConfig config)
                (input.registry.processes.filterMap
                  (Scenario.bound? input.registry input.growthSpecies))
                (Scenario.conditionsOf input temperature)) := by
  cases latticeEq : input.lattice with
  | none => exact (proper (.noLattice latticeEq)).elim
  | some config =>
      cases temperatureEq : input.temperature with
      | none => exact (proper (.noTemperature temperatureEq)).elim
      | some temperature =>
          rcases (misconfigured_iff latticeEq temperatureEq).mp proper with
            ⟨latticeFaultless, faultless⟩
          refine ⟨config, temperature, rfl, rfl, ?_⟩
          rw [Scenario.value_ofInput latticeEq temperatureEq, latticeFaultless]
          dsimp only
          rw [Scenario.value_onLattice filled, faultless]

end Misconfigured

/-- A lattice of six columns, and two processes of which one has no species. -/
def partlyBoundText (rest : String) : String :=
  "build_lattice FCC 6 2 10 Cu\n" ++
    "nspecies 1\n" ++
    "Cu 63.546\n" ++
    "nprocesses 2\n" ++
    "Ag -> Ag + *, 1.0\n" ++
    "Cu + * -> Cu*, 1.0\n" ++
    "temperature 500\n" ++
    rest

end SurfaceKinetics
