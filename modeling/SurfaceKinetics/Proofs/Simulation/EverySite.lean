import SurfaceKinetics.Proofs.Simulation.Coherence
import SurfaceKinetics.Proofs.Simulation.Origin

/-!
# What every site keeps

An event changes its origin in one way, its partners in another, and no other
site.  So a property of single sites holds everywhere in a run once it holds
everywhere at the start, if it is kept by the change of an origin where the rule
holds and by the change of a partner that the perform accepts there.
-/

namespace SurfaceKinetics

/--
The events of a process keep a property of single sites.  The origin is in a state in
which the rule holds, and a partner is in one that the perform accepts.
-/
structure SurfaceProcess.Keeps
    {α : Type}
    (property : Site → Prop)
    (process : SurfaceProcess α) : Prop where
  origin :
    ∀ {lattice : Lattice} {site : Nat} {state : Site},
      process.rule.holdsAt lattice site state = true →
        property state →
          property (process.perform.originChange state)
  partner :
    ∀ {lattice : Lattice} {site : Nat} {state other : Site},
      process.rule.holdsAt lattice site state = true →
        process.perform.acceptsPartner state other = true →
          property other →
            property (process.perform.partnerChange other)

namespace Run

variable {α : Type} [Quantity α]

section Moves

variable
    {run next : Run α}
    {process : SurfaceProcess α}
    {pair : LivePair α}
    {state : Site}
    {chosen : List Nat}
    (moves : run.Moves process pair state chosen next)

include moves

/-- The states after a step. -/
theorem Moves.site?_eq (site : Nat) :
    next.lattice.site? site =
      if site = pair.site then
        (run.lattice.site? site).map process.perform.originChange
      else if site ∈ chosen then
        (run.lattice.site? site).map process.perform.partnerChange
      else
        run.lattice.site? site := by
  rw [moves.lattice_eq, absorb, Perform.event, Lattice.site?_refreshMany,
    process.perform.site?_effect _ _ _ moves.picks.nodup]

/-- The state of the origin after a step. -/
theorem Moves.site?_origin :
    next.lattice.site? pair.site = some (process.perform.originChange state) := by
  rw [moves.site?_eq, if_pos rfl, moves.picks.found, Option.map_some]

/-- The state of a partner after a step. -/
theorem Moves.site?_partner {site : Nat} (member : site ∈ chosen) :
    ∃ other,
      run.lattice.site? site = some other ∧
        process.perform.acceptsPartner state other = true ∧
          next.lattice.site? site =
            some (process.perform.partnerChange other) := by
  rcases moves.picks.accepted member with ⟨other, found, accepted⟩
  have apart : site ≠ pair.site := by
    intro equal
    exact (List.nodup_cons.mp moves.picks.nodup).1 (equal ▸ member)
  refine ⟨other, found, accepted, ?_⟩
  rw [moves.site?_eq, if_neg apart, if_pos member, found, Option.map_some]

theorem Moves.config_eq : next.lattice.config = run.lattice.config := by
  rw [moves.lattice_eq]
  simp [absorb, Perform.event]

/-- A step of a process that keeps a property leaves it true everywhere. -/
theorem Moves.everywhere
    (coherent : run.Coherent)
    {property : Site → Prop}
    (keeps : process.Keeps property)
    (before : run.lattice.Everywhere property) :
    next.lattice.Everywhere property := by
  have holds := moves.holdsAt coherent
  intro site later found
  rw [moves.site?_eq] at found
  split at found
  · next equal =>
      subst equal
      rw [moves.picks.found, Option.map_some] at found
      cases found
      exact keeps.origin holds (before _ _ moves.picks.found)
  · split at found
    · next member =>
        rcases moves.picks.accepted member with ⟨other, otherFound, accepted⟩
        rw [otherFound, Option.map_some] at found
        cases found
        exact keeps.partner holds accepted (before _ _ otherFound)
    · exact before site later found

end Moves

theorem Reaches.config_eq
    {first run : Run α}
    (reached : first.Reaches run) :
    run.lattice.config = first.lattice.config := by
  induction reached with
  | refl => rfl
  | moved earlier step induction =>
      rcases advance_moved step with ⟨state, chosen, moves⟩
      exact moves.config_eq.trans induction

section Input

variable
    {input : SimulationInput α}
    {scenario : Scenario α}
    (comes : Scenario.Comes input scenario)
    {random : RandomSource}
    {run : Run α}
    (reached : (start scenario random).Reaches run)

include comes reached

theorem Reaches.coherent_of_comes : run.Coherent :=
  reached.coherent (coherent_start comes.counted random)

/-- What all processes keep holds everywhere in every reached lattice. -/
theorem Reaches.everywhere
    {property : Site → Prop}
    (keeps : ∀ process ∈ scenario.processes, process.Keeps property)
    (before : scenario.lattice.Everywhere property) :
    run.lattice.Everywhere property := by
  induction reached with
  | refl => exact before
  | moved earlier step induction =>
      rcases advance_moved step with ⟨state, chosen, moves⟩
      exact
        moves.everywhere (earlier.coherent_of_comes comes)
          (keeps _ (earlier.process_mem moves)) induction

end Input

end Run

end SurfaceKinetics
