import SurfaceKinetics.Proofs.SurfaceProcess.Effect
import SurfaceKinetics.Simulation.Run

/-!
# Steps of a run

What a step of a run does, said once: it executes the event of a live pair whose
rate is not at most zero, with partners that the perform may draw, or it fails
for one of few reasons.  A run reaches another one by any number of steps.
-/

namespace SurfaceKinetics

variable {α : Type}

/-! ## Outcomes of a step -/

/-- The event of a step, if one happens. -/
def Run.Advance.moved? :
    Advance α → Option (Run α × SurfaceProcess α × LivePair α)
  | .moved next process pair => some (next, process, pair)
  | _ => none

theorem Run.Advance.eq_of_moved?
    {advance : Advance α}
    {next : Run α}
    {process : SurfaceProcess α}
    {pair : LivePair α}
    (found : advance.moved? = some (next, process, pair)) :
    advance = .moved next process pair := by
  cases advance with
  | stalled reason => cases found
  | failed error cause => cases found
  | moved next process pair =>
      cases found
      rfl

/-! ## Selected pairs -/

theorem EventTable.mem_rowPairs_iff
    {process : Nat}
    {row : Array (Option α)}
    {pair : LivePair α} :
    pair ∈ EventTable.rowPairs process row ↔
      pair.process = process ∧ row[pair.site]? = some (some pair.rate) := by
  rw [rowPairs, List.mem_filterMap]
  constructor
  · rintro ⟨⟨entry, site⟩, member, paired⟩
    rw [List.mk_mem_zipIdx_iff_getElem?, Array.getElem?_toList] at member
    cases entry with
    | none => cases paired
    | some rate =>
        cases paired
        exact ⟨rfl, member⟩
  · rintro ⟨rfl, found⟩
    refine ⟨(some pair.rate, pair.site), ?_, rfl⟩
    rw [List.mk_mem_zipIdx_iff_getElem?, Array.getElem?_toList]
    exact found

theorem EventTable.mem_rates_iff {row : Array (Option α)} {rate : α} :
    rate ∈ EventTable.rates row ↔
      ∃ site : Nat, row[site]? = some (some rate) := by
  rw [rates, List.mem_filterMap]
  constructor
  · rintro ⟨entry, member, rfl⟩
    rcases List.mem_iff_getElem?.mp member with ⟨site, found⟩
    rw [Array.getElem?_toList] at found
    exact ⟨site, found⟩
  · rintro ⟨site, found⟩
    rw [← Array.getElem?_toList] at found
    exact ⟨_, List.mem_of_getElem? found, rfl⟩

/-- The live pairs of a table are its entries. -/
theorem EventTable.mem_pairs_iff
    {table : EventTable α}
    {pair : LivePair α} :
    pair ∈ table.pairs ↔
      ∃ row,
        table.rows[pair.process]? = some row ∧
          row[pair.site]? = some (some pair.rate) := by
  rw [pairs, List.mem_flatMap]
  constructor
  · rintro ⟨⟨row, process⟩, member, paired⟩
    rcases mem_rowPairs_iff.mp paired with ⟨rfl, found⟩
    exact ⟨row, List.mk_mem_zipIdx_iff_getElem?.mp member, found⟩
  · rintro ⟨row, rowFound, found⟩
    exact
      ⟨(row, pair.process), List.mk_mem_zipIdx_iff_getElem?.mpr rowFound,
        mem_rowPairs_iff.mpr ⟨rfl, found⟩⟩

variable [Quantity α]

/-- A scan selects a pair that it has not passed over. -/
theorem selectFrom_mem
    {target cumulative : α}
    {last : Option (LivePair α)}
    {pairs : List (LivePair α)}
    {pair : LivePair α}
    (selected : selectFrom target cumulative last pairs = some pair) :
    last = some pair ∨ pair ∈ pairs ∧ ¬ pair.rate ≤ Quantity.zero := by
  induction pairs generalizing cumulative last with
  | nil => exact Or.inl selected
  | cons first rest induction =>
      rw [selectFrom] at selected
      split at selected
      · rcases induction selected with earlier | ⟨member, positive⟩
        · exact Or.inl earlier
        · exact Or.inr ⟨List.mem_cons_of_mem _ member, positive⟩
      · next positive =>
          split at selected
          · cases selected
            exact Or.inr ⟨List.mem_cons_self, positive⟩
          · rcases induction selected with here | ⟨member, memberPositive⟩
            · cases here
              exact Or.inr ⟨List.mem_cons_self, positive⟩
            · exact Or.inr ⟨List.mem_cons_of_mem _ member, memberPositive⟩

/-- A selected pair is live, and its rate is not at most zero. -/
theorem EventTable.select_mem
    {table : EventTable α}
    {target : α}
    {pair : LivePair α}
    (selected : table.select target = some pair) :
    pair ∈ table.pairs ∧ ¬ pair.rate ≤ Quantity.zero := by
  rcases selectFrom_mem selected with impossible | found
  · cases impossible
  · exact found

namespace Run

/-! ## One step -/

/-- A step that executes the event of a pair with the given partners. -/
structure Moves
    (run : Run α)
    (process : SurfaceProcess α)
    (pair : LivePair α)
    (state : Site)
    (chosen : List Nat)
    (next : Run α) : Prop where
  process_eq : run.scenario.processes[pair.process]? = some process
  live : pair ∈ run.table.pairs
  positive : ¬ pair.rate ≤ Quantity.zero
  picks : process.perform.Picks run.lattice pair.site state chosen
  scenario_eq : next.scenario = run.scenario
  lattice_eq :
    next.lattice =
      (run.absorb (process.perform.event run.lattice pair.site chosen)).lattice
  table_eq :
    next.table =
      (run.absorb (process.perform.event run.lattice pair.site chosen)).table
  events_eq : next.events = run.events.modify pair.process (· + 1)
  netColumns_eq : next.netColumns = run.netColumns + process.heightChange
  step_eq : next.step = run.step + 1

theorem choose_selected
    {run : Run α}
    {pair : LivePair α}
    {random : RandomSource}
    (chosen : run.choose = .ok (.selected pair, random)) :
    pair ∈ run.table.pairs ∧ ¬ pair.rate ≤ Quantity.zero := by
  simp only [choose] at chosen
  split at chosen
  · cases chosen
  · split at chosen
    · cases chosen
    · split at chosen
      · cases chosen
      · split at chosen
        split at chosen
        · cases chosen
        · next selected =>
            cases chosen
            exact EventTable.select_mem selected

theorem choose_error
    {run : Run α}
    {fault : NumericalFault}
    (failed : run.choose = .error fault) :
    totalFault? run.table.totalRate run.step = some fault := by
  simp only [choose] at failed
  split at failed
  · next found =>
      cases failed
      exact found
  · split at failed
    · cases failed
    · split at failed
      · cases failed
      · split at failed
        split at failed <;> cases failed

/-- What a step that executes an event does. -/
theorem advance_moved
    {run next : Run α}
    {process : SurfaceProcess α}
    {pair : LivePair α}
    (moved : run.advance = .moved next process pair) :
    ∃ state chosen, run.Moves process pair state chosen next := by
  rw [advance] at moved
  split at moved
  · cases moved
  · cases moved
  · next selectedPair random selected =>
      rcases choose_selected selected with ⟨live, positive⟩
      split at moved
      · cases moved
      · next found =>
          unfold Advance.ofOutcome at moved
          split at moved
          · next executed =>
              cases moved
              have outcome :=
                process.perform.execute_surely (α := α) run.lattice pair.site
                  random
              simp only [execute] at executed
              split at executed
              · cases executed
              · next event afterwards performed =>
                  rw [performed] at outcome
                  rcases outcome with ⟨state, chosen, picks, rfl⟩
                  cases executed
                  exact
                    ⟨state, chosen,
                      { process_eq := found
                        live
                        positive
                        picks
                        scenario_eq := rfl
                        lattice_eq := rfl
                        table_eq := rfl
                        events_eq := rfl
                        netColumns_eq := rfl
                        step_eq := rfl }⟩
          · cases moved

/-- Why a step fails. -/
inductive Breaks (run : Run α) : SimulationError α → Prop where
  | total
      {fault : NumericalFault}
      (found : totalFault? run.table.totalRate run.step = some fault) :
      Breaks run (.numerical fault)
  | event
      {process : SurfaceProcess α}
      {pair : LivePair α}
      {error : SimulationError α}
      (process_eq : run.scenario.processes[pair.process]? = some process)
      (live : pair ∈ run.table.pairs)
      (fails : process.perform.Fails run.lattice pair.site error) :
      Breaks run error

theorem advance_failed
    {run : Run α}
    {error : SimulationError α}
    {cause : Option (SurfaceProcess α × LivePair α)}
    (failed : run.advance = .failed error cause) :
    run.Breaks error := by
  rw [advance] at failed
  split at failed
  · next fault numerical =>
      cases failed
      exact .total (choose_error numerical)
  · cases failed
  · next pair random selected =>
      rcases choose_selected selected with ⟨live, _⟩
      split at failed
      · cases failed
      · next process found =>
          unfold Advance.ofOutcome at failed
          split at failed
          · cases failed
          · next broken =>
              cases failed
              have outcome :=
                process.perform.execute_surely (α := α) run.lattice pair.site
                  random
              simp only [execute] at broken
              split at broken
              · next performed =>
                  rw [performed] at outcome
                  cases broken
                  exact .event found live outcome
              · cases broken

/-! ## Many steps -/

/-- A run is reached from another by executing events. -/
inductive Reaches (first : Run α) : Run α → Prop where
  | refl : Reaches first first
  | moved
      {run next : Run α}
      {process : SurfaceProcess α}
      {pair : LivePair α}
      (earlier : Reaches first run)
      (step : run.advance = .moved next process pair) :
      Reaches first next

theorem Reaches.scenario_eq
    {first run : Run α}
    (reached : first.Reaches run) :
    run.scenario = first.scenario := by
  induction reached with
  | refl => rfl
  | moved earlier step induction =>
      rcases advance_moved step with ⟨state, chosen, moves⟩
      exact moves.scenario_eq.trans induction

/-- The process of a step is one of the scenario's. -/
theorem Reaches.process_mem
    {first run next : Run α}
    {process : SurfaceProcess α}
    {pair : LivePair α}
    {state : Site}
    {chosen : List Nat}
    (reached : first.Reaches run)
    (moves : run.Moves process pair state chosen next) :
    process ∈ first.scenario.processes := by
  rw [← reached.scenario_eq]
  exact List.mem_of_getElem? moves.process_eq

theorem Reaches.trans
    {first second third : Run α}
    (begins : first.Reaches second)
    (continues : second.Reaches third) :
    first.Reaches third := by
  induction continues with
  | refl => exact begins
  | moved earlier step induction => exact .moved induction step

/-- The run after a number of events, if as many can happen. -/
def after : Nat → Run α → Option (Run α)
  | 0, run => some run
  | count + 1, run =>
    match run.advance with
    | .moved next _ _ => next.after count
    | _ => none

/-- The run after some events is reached and has made as many steps. -/
theorem reaches_of_after
    {count : Nat}
    {run later : Run α}
    (found : run.after count = some later) :
    run.Reaches later ∧ later.step = run.step + count := by
  induction count generalizing run with
  | zero =>
      cases found
      exact ⟨.refl, rfl⟩
  | succ count induction =>
      rw [after] at found
      split at found
      · next next process pair moved =>
          rcases induction found with ⟨reached, stepEq⟩
          rcases advance_moved moved with ⟨state, chosen, moves⟩
          refine ⟨(Reaches.refl.moved moved).trans reached, ?_⟩
          rw [stepEq, moves.step_eq]
          omega
      · cases found

end Run

end SurfaceKinetics
