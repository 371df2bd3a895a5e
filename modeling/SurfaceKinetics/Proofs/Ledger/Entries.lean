import SurfaceKinetics.Proofs.Ledger.Tally
import SurfaceKinetics.Proofs.Simulation.Solving

/-!
# Ledgers

A ledger gives every process a weight and adds up the weights of all events that
happened.  Whatever changes with every event by the weight of its process is, at
any time of a run, what it was at the start plus the ledger of the run.
-/

namespace SurfaceKinetics

variable {α : Type}

/-- The sum of the weights of the processes, each as often as it happened. -/
def ledger
    (weight : SurfaceProcess α → Int)
    (processes : List (SurfaceProcess α))
    (events : List Nat) : Int :=
  netTotal <|
    List.zipWith
      (fun process (count : Nat) => (count : Int) * weight process)
      processes events

section Entries

variable (weight : SurfaceProcess α → Int)

@[simp]
theorem ledger_nil (events : List Nat) : ledger weight [] events = 0 := rfl

@[simp]
theorem ledger_cons
    (process : SurfaceProcess α)
    (processes : List (SurfaceProcess α))
    (count : Nat)
    (events : List Nat) :
    ledger weight (process :: processes) (count :: events) =
      count * weight process + ledger weight processes events :=
  rfl

/-- Nothing is due before the first event. -/
theorem ledger_start (processes : List (SurfaceProcess α)) :
    ledger weight processes (processes.map fun _ => 0) = 0 := by
  induction processes with
  | nil => rfl
  | cons process rest induction =>
      rw [List.map_cons, ledger_cons, induction, Int.natCast_zero,
        Int.zero_mul, Int.zero_add]

/-- An event of a process adds its weight. -/
theorem ledger_modify
    {processes : List (SurfaceProcess α)}
    {events : List Nat}
    (lengthEq : events.length = processes.length)
    {index : Nat}
    {process : SurfaceProcess α}
    (found : processes[index]? = some process) :
    ledger weight processes (events.modify index (· + 1)) =
      ledger weight processes events + weight process := by
  induction processes generalizing events index with
  | nil => cases found
  | cons first rest induction =>
      cases events with
      | nil => cases lengthEq
      | cons count counts =>
          cases index with
          | zero =>
              cases found
              rw [List.modify_zero_cons, ledger_cons, ledger_cons,
                Int.natCast_succ, Int.add_mul, Int.one_mul]
              omega
          | succ index =>
              rw [List.modify_succ_cons, ledger_cons, ledger_cons,
                induction (Nat.succ.inj lengthEq) found, Int.add_assoc]

/-- When no process has a weight, nothing is due. -/
theorem ledger_eq_zero
    {weight : SurfaceProcess α → Int}
    {processes : List (SurfaceProcess α)}
    (weightless : ∀ process ∈ processes, weight process = 0)
    (events : List Nat) :
    ledger weight processes events = 0 := by
  induction processes generalizing events with
  | nil => rfl
  | cons process rest induction =>
      cases events with
      | nil => rfl
      | cons count counts =>
          rcases List.forall_mem_cons.mp weightless with ⟨here, later⟩
          rw [ledger_cons, here, induction later, Int.mul_zero, Int.add_zero]

/-- When every event weighs one, the ledger counts the events. -/
theorem ledger_one
    {processes : List (SurfaceProcess α)}
    {events : List Nat}
    (lengthEq : events.length = processes.length) :
    ledger (fun _ => 1) processes events = total events := by
  induction processes generalizing events with
  | nil =>
      rw [List.length_eq_zero_iff.mp lengthEq]
      rfl
  | cons process rest induction =>
      cases events with
      | nil => cases lengthEq
      | cons count counts =>
          rw [ledger_cons, induction (Nat.succ.inj lengthEq), total_cons,
            Int.natCast_add, Int.mul_one]

end Entries

namespace Run

variable [Quantity α]

/-- A step moves a tally by the gains at its origin and at its partners. -/
theorem Moves.tally_eq
    {run next : Run α}
    {process : SurfaceProcess α}
    {pair : LivePair α}
    {state : Site}
    {chosen : List Nat}
    (moves : run.Moves process pair state chosen next)
    (measure : Site → Int)
    {originGain partnerGain : Int}
    (atOrigin :
      measure (process.perform.originChange state) - measure state =
        originGain)
    (atPartner :
      ∀ other,
        process.perform.acceptsPartner state other = true →
          measure (process.perform.partnerChange other) - measure other =
            partnerGain) :
    next.lattice.tally measure =
      run.lattice.tally measure +
        (originGain + process.perform.partners * partnerGain) := by
  rw [moves.lattice_eq, absorb, Perform.event, Lattice.tally_refreshMany]
  exact moves.picks.tally_effect measure atOrigin atPartner

/-- A run counts the events of each of its processes. -/
theorem Reaches.length_events
    {scenario : Scenario α}
    {random : RandomSource}
    {run : Run α}
    (reached : (start scenario random).Reaches run) :
    run.events.length = scenario.processes.length := by
  induction reached with
  | refl => exact List.length_map _
  | moved earlier step induction =>
      rcases advance_moved step with ⟨state, chosen, moves⟩
      rw [moves.events_eq, List.length_modify, induction]

/--
A number that every event changes by the weight of its process is, at any time
of a run, what it was at the start plus the ledger.
-/
theorem Reaches.ledger_eq
    {scenario : Scenario α}
    {random : RandomSource}
    (number : Run α → Int)
    (weight : SurfaceProcess α → Int)
    (balanced :
      ∀ {run next : Run α} {process : SurfaceProcess α} {pair : LivePair α},
        (start scenario random).Reaches run →
          run.advance = .moved next process pair →
            number next = number run + weight process)
    {run : Run α}
    (reached : (start scenario random).Reaches run) :
    number run =
      number (start scenario random) +
        ledger weight scenario.processes run.events := by
  induction reached with
  | refl =>
      show _ = _ + ledger weight _ (scenario.processes.map fun _ => 0)
      rw [ledger_start, Int.add_zero]
  | moved earlier step induction =>
      rcases advance_moved step with ⟨state, chosen, moves⟩
      have found := moves.process_eq
      rw [earlier.scenario_eq] at found
      rw [balanced earlier step, induction, moves.events_eq,
        ledger_modify weight earlier.length_events found, Int.add_assoc]

end Run

end SurfaceKinetics
