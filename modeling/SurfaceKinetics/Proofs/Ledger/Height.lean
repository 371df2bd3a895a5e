import SurfaceKinetics.Proofs.Ledger.Entries
import SurfaceKinetics.Proofs.Simulation.Origin

/-!
# The height ledger

An event lifts its origin and each of its partners by fixed amounts, which add
up to the height change of its perform.  So the heights of a lattice are a
ledger over the events of a run, and so are the net number of columns and the
growth rate that samples show.
-/

namespace SurfaceKinetics

/-- Raising a column lifts it by the amount. -/
theorem Site.height_raise_sub (site : Site) (amount : Int) :
    (site.raise amount).height - site.height = amount := by
  simp only [raise]
  omega

namespace Perform

/-- What an event adds to the column of its origin. -/
def originLift : Perform → Int
  | raiseHeight _ => 1
  | lowerHeight _ => -1
  | hopHeight => -1
  | react _ _ grows => if grows then 1 else 0
  | _ => 0

/-- What an event adds to the column of a partner. -/
def partnerLift : Perform → Int
  | raiseHeight _ => 1
  | lowerHeight _ => -1
  | hopHeight => 1
  | _ => 0

theorem height_originChange (perform : Perform) (state : Site) :
    (perform.originChange state).height - state.height =
      perform.originLift := by
  cases perform with
  | raiseHeight sites => exact state.height_raise_sub 1
  | lowerHeight sites => exact state.height_raise_sub (-1)
  | cover species sites => exact Int.sub_self _
  | uncover species sites => exact Int.sub_self _
  | hopHeight => exact state.height_raise_sub (-1)
  | hop species => exact Int.sub_self _
  | react partner product grows =>
      -- Neither the reactants nor the product lift the column, growth does.
      cases grows with
      | false => cases product <;> exact Int.sub_self _
      | true => cases product <;> exact state.height_raise_sub 1

theorem height_partnerChange (perform : Perform) (state : Site) :
    (perform.partnerChange state).height - state.height =
      perform.partnerLift := by
  cases perform with
  | raiseHeight sites => exact state.height_raise_sub 1
  | lowerHeight sites => exact state.height_raise_sub (-1)
  | hopHeight => exact state.height_raise_sub 1
  | _ => exact Int.sub_self _

/-- The height change of a perform is what it adds to all its columns. -/
theorem heightChange_eq
    {perform : Perform}
    (sitesPos : 0 < perform.sites) :
    perform.heightChange =
      perform.originLift + perform.partners * perform.partnerLift := by
  cases perform with
  | raiseHeight count =>
      simp only [sites] at sitesPos
      simp only [heightChange, originLift, partnerLift, partners, sites]
      omega
  | lowerHeight count =>
      simp only [sites] at sitesPos
      simp only [heightChange, originLift, partnerLift, partners, sites]
      omega
  | hopHeight => rfl
  | _ => simp [heightChange, originLift, partnerLift]

end Perform

/-- A perform that is consistent with a rule changes at least one site. -/
theorem SurfaceProcess.sites_pos_of_isConsistent
    {rule : Rule}
    {perform : Perform}
    (consistent : isConsistent rule perform = true) :
    0 < perform.sites := by
  unfold isConsistent at consistent
  split at consistent
  · rw [eq_of_beq consistent]
    exact Nat.one_pos
  · exact of_decide_eq_true (Bool.and_eq_true_iff.mp consistent).1
  · exact of_decide_eq_true (Bool.and_eq_true_iff.mp consistent).1
  · exact of_decide_eq_true (Bool.and_eq_true_iff.mp consistent).1
  · exact of_decide_eq_true (Bool.and_eq_true_iff.mp consistent).1
  · next notRaise notLower notCover notUncover _ =>
      -- What is left changes two sites, or one when nothing else reacts.
      cases perform with
      | raiseHeight count => exact (notRaise count rfl).elim
      | lowerHeight count => exact (notLower count rfl).elim
      | cover species count => exact (notCover species count rfl).elim
      | uncover species count => exact (notUncover species count rfl).elim
      | hopHeight => exact Nat.two_pos
      | hop species => exact Nat.two_pos
      | react partner product grows =>
          cases partner with
          | none => exact Nat.one_pos
          | some species => exact Nat.two_pos

variable {α : Type} [Quantity α]

namespace Run

/-- A step changes the sum of all heights by the height change of its process. -/
theorem Moves.netTotal_heights
    {run next : Run α}
    {process : SurfaceProcess α}
    {pair : LivePair α}
    {state : Site}
    {chosen : List Nat}
    (moves : run.Moves process pair state chosen next)
    (sitesPos : 0 < process.perform.sites) :
    netTotal next.lattice.heights =
      netTotal run.lattice.heights + process.heightChange := by
  have gained :=
    moves.tally_eq Site.height (process.perform.height_originChange state)
      fun other _ => process.perform.height_partnerChange other
  rw [← Perform.heightChange_eq sitesPos] at gained
  exact gained

section Totals

variable
    {scenario : Scenario α}
    {random : RandomSource}
    {run : Run α}
    (reached : (start scenario random).Reaches run)

include reached

/-- The heights of a run are a ledger over its events. -/
theorem Reaches.netTotal_heights
    (sitesPos :
      ∀ process ∈ scenario.processes, 0 < process.perform.sites) :
    netTotal run.lattice.heights =
      netTotal scenario.lattice.heights +
        ledger SurfaceProcess.heightChange scenario.processes run.events := by
  refine reached.ledger_eq (fun run => netTotal run.lattice.heights) _ ?_
  intro run next process pair earlier moved
  rcases advance_moved moved with ⟨state, chosen, moves⟩
  exact moves.netTotal_heights (sitesPos process (earlier.process_mem moves))

/-- The net number of columns is the same ledger. -/
theorem Reaches.netColumns_eq :
    run.netColumns =
      ledger SurfaceProcess.heightChange scenario.processes run.events := by
  rw [reached.ledger_eq netColumns SurfaceProcess.heightChange]
  · exact Int.zero_add _
  · intro run next process pair _ moved
    rcases advance_moved moved with ⟨state, chosen, moves⟩
    exact moves.netColumns_eq

/-- The events of all processes are the steps of a run. -/
theorem Reaches.total_events : total run.events = run.step := by
  have counted := reached.ledger_eq (fun run => (run.step : Int)) fun _ => 1
  rw [ledger_one reached.length_events] at counted
  have steps : (run.step : Int) = ((0 : Nat) : Int) + total run.events := by
    apply counted
    intro run next process pair _ moved
    rcases advance_moved moved with ⟨state, chosen, moves⟩
    rw [moves.step_eq]
    exact Int.natCast_succ _
  omega

end Totals

end Run

/--
The heights of the final lattice, the number of steps and the growth rate of the
last sample are ledgers over the events of a run.
-/
theorem heights_balance
    {bound : Nat}
    {scenario : Scenario α}
    {config : RunConfig α}
    {result : SimulationResult α}
    (solved : (solve? bound scenario config).value = some (.ok result)) :
    netTotal result.lattice.heights - netTotal scenario.lattice.heights =
        ledger SurfaceProcess.heightChange scenario.processes
          result.eventCounts ∧
      total result.eventCounts = result.steps ∧
        (∃ last,
          result.samples.getLast? = some last ∧
            last.growthRate =
              Surface.growthRate
                (ledger SurfaceProcess.heightChange scenario.processes
                  result.eventCounts)
                result.lattice.size result.time) ∧
          ((∀ process ∈ scenario.processes, process.heightChange = 0) →
            netTotal result.lattice.heights =
              netTotal scenario.lattice.heights) := by
  rcases solve?_ok solved with ⟨faultless, final, reason, sound, rfl⟩
  have sitesPos :
      ∀ process ∈ scenario.processes, 0 < process.perform.sites := by
    intro process member
    have processFaultless :=
      Scenario.process_fault?_of_fault? (fault?_of_runFault? faultless) member
    exact
      SurfaceProcess.sites_pos_of_isConsistent
        (SurfaceProcess.isConsistent_of_fault? processFaultless)
  have heights :
      netTotal final.run.lattice.heights =
        netTotal scenario.lattice.heights +
          ledger SurfaceProcess.heightChange scenario.processes
            final.run.events :=
    sound.reached.netTotal_heights sitesPos
  refine ⟨?_, sound.reached.total_events, ?_, ?_⟩
  · show netTotal final.run.lattice.heights - _ = _
    rw [heights, Int.add_comm, Int.add_sub_cancel]
    rfl
  · refine ⟨_, sound.getLast?_finalSamples, ?_⟩
    show Surface.growthRate final.run.netColumns _ _ = _
    rw [sound.reached.netColumns_eq]
    rfl
  · intro flat
    show netTotal final.run.lattice.heights = _
    rw [heights, ledger_eq_zero flat, Int.add_zero]

/-- A process of copper columns at rate one. -/
def copperProcess
    (name : String)
    (rule : Rule)
    (perform : Perform) :
    SurfaceProcess Float :=
  .ofParts
    { name
      category := .diffusion
      reaction := ""
      reactants := []
      products := []
      species := ["Cu"]
      energetics := { values := [1.0], options := [] }
      stoichiometry := none }
    "Cu" .height rule (.constant 1.0) perform

/-- Copper columns on two terraces. -/
def terraces (processes : List (SurfaceProcess Float)) : Scenario Float :=
  Scenario.assemble
    (Lattice.ofConfig
      { kind := .simpleCubic
        columns := 2
        rows := 2
        initialHeight := 1
        label := "Cu"
        steps := some { count := 2, height := 1, depth := 1 } })
    processes
    { temperature := 300.0, pressure := 0.0 }

def terraceConfig : RunConfig Float := { limit := .steps 3, seed := 6 }

def twinDeposition : SurfaceProcess Float :=
  copperProcess "twins" (.sameHeightNeighbours 1) (.raiseHeight 2)

def descent : SurfaceProcess Float :=
  copperProcess "descent" .canDescend .hopHeight

theorem heights_balance_terraces :
    (∃ result,
      (solve? 4 (terraces [twinDeposition, descent]) terraceConfig).value =
          some (.ok result) ∧
        result.eventCounts = [1, 2] ∧
          netTotal result.lattice.heights -
              netTotal (terraces [twinDeposition, descent]).lattice.heights =
            ledger SurfaceProcess.heightChange [twinDeposition, descent]
              result.eventCounts ∧
            result.steps = 3) ∧
      ∃ result,
        (solve? 4 (terraces [descent]) terraceConfig).value =
            some (.ok result) ∧
          netTotal result.lattice.heights =
            netTotal (terraces [descent]).lattice.heights := by
  constructor
  · have ahead :
        ((result? 4 (terraces [twinDeposition, descent]) terraceConfig).any
          fun result => result.eventCounts == [1, 2]) = true := by
      decide +kernel
    rcases (Option.any_eq_true _ _).mp ahead with ⟨result, found, counted⟩
    have solved := solve?_of_result? found
    have counts : result.eventCounts = [1, 2] := eq_of_beq counted
    rcases heights_balance solved with ⟨heights, steps, _, _⟩
    rw [counts] at steps
    exact ⟨result, solved, counts, heights, steps.symm⟩
  · have ahead :
        (result? 4 (terraces [descent]) terraceConfig).isSome = true := by
      decide +kernel
    rcases Option.isSome_iff_exists.mp ahead with ⟨result, found⟩
    have solved := solve?_of_result? found
    rcases heights_balance solved with ⟨_, _, _, conserved⟩
    refine ⟨result, solved, conserved ?_⟩
    intro process member
    rw [List.mem_singleton.mp member]
    rfl

end SurfaceKinetics
