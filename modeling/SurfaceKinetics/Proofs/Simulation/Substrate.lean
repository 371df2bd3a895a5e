import SurfaceKinetics.Proofs.Lattice.Building
import SurfaceKinetics.Proofs.Simulation.EverySite
import SurfaceKinetics.Proofs.Simulation.Solving

/-!
# The substrate below adsorbates

A site remembers one label below its adsorbate.  That is enough: an event covers
vacant sites only and uncovers occupied ones only, so what is remembered is
always the label of the substrate, and it shows wherever nothing is adsorbed.
Hence every site that an event frees is labelled as the lattice was at first,
whatever has been adsorbed there before.
-/

namespace SurfaceKinetics

/-! ## Resting on a label -/

/-- A site shows a label wherever no adsorbate hides it. -/
structure Site.RestsOn (label : String) (site : Site) : Prop where
  below : site.below = label
  bare : site.occupied = false → site.label = label

namespace Site.RestsOn

variable {label : String}

theorem vacant (height : Int) : (Site.vacant height label).RestsOn label :=
  ⟨rfl, fun _ => rfl⟩

variable {site : Site} (rests : site.RestsOn label)

include rests

theorem raise (amount : Int) : (site.raise amount).RestsOn label :=
  ⟨rests.below, rests.bare⟩

theorem uncover : site.uncover.RestsOn label :=
  ⟨rests.below, fun _ => rests.below⟩

/-- A vacant site hands its label down to what covers it. -/
theorem cover (species : String) (isVacant : site.occupied = false) :
    (site.cover species).RestsOn label :=
  ⟨rests.bare isVacant, nofun⟩

theorem reacted (product : Option String) (grows : Bool) :
    (Perform.reacted product grows site).RestsOn label := by
  cases product with
  | none =>
      cases grows with
      | false => exact rests.uncover
      | true => exact rests.uncover.raise 1
  | some species =>
      have covered := rests.uncover.cover species rfl
      cases grows with
      | false => exact covered
      | true => exact covered.raise 1

/-- A served perform leaves its origin on the substrate. -/
theorem originChange
    {rule : Rule}
    {perform : Perform}
    (serves : rule.Serves perform)
    {lattice : Lattice}
    {origin : Nat}
    (holds : rule.holdsAt lattice origin site = true) :
    (perform.originChange site).RestsOn label := by
  cases serves with
  | raise => exact rests.raise 1
  | raiseCluster extra => exact rests.raise 1
  | lower => exact rests.raise (-1)
  | lowerCluster extra => exact rests.raise (-1)
  | hopHeight => exact rests.raise (-1)
  | cover species =>
      simp only [Rule.holdsAt, Bool.not_eq_true'] at holds
      exact rests.cover species holds
  | coverCluster species extra =>
      simp only [Rule.holdsAt, Bool.and_eq_true, Bool.not_eq_true'] at holds
      exact rests.cover species holds.1
  | uncover species extra => exact rests.uncover
  | hop species => exact rests.uncover
  | react first partner product grows => exact rests.reacted product grows

/-- A perform leaves a partner that it accepts on the substrate. -/
theorem partnerChange
    {perform : Perform}
    {state : Site}
    (accepted : perform.acceptsPartner state site = true) :
    (perform.partnerChange site).RestsOn label := by
  cases perform with
  | raiseHeight sites => exact rests.raise 1
  | lowerHeight sites => exact rests.raise (-1)
  | hopHeight => exact rests.raise 1
  | cover species sites =>
      simp only [Perform.acceptsPartner, Bool.and_eq_true, Bool.not_eq_true']
        at accepted
      exact rests.cover species accepted.2
  | hop species =>
      simp only [Perform.acceptsPartner, Bool.and_eq_true, Bool.not_eq_true']
        at accepted
      exact rests.cover species accepted.2
  | uncover species sites => exact rests.uncover
  | react partner product grows => exact rests.uncover

end Site.RestsOn

namespace Lattice

/-- All sites show a label wherever no adsorbate hides it. -/
def RestsOn (label : String) (lattice : Lattice) : Prop :=
  ∀ site state, lattice.site? site = some state → state.RestsOn label

theorem restsOn_new (config : LatticeConfig) (coordination : Coordination) :
    ((ofConfig config).withCoordination coordination).RestsOn config.label := by
  intro site state found
  rcases site?_new found with ⟨height, rfl⟩
  exact .vacant height

end Lattice

/-! ## Runs -/

variable {α : Type}

/-- The events of a process whose rule serves its perform keep the substrate. -/
theorem SurfaceProcess.keeps_restsOn
    {process : SurfaceProcess α}
    (serves : process.rule.Serves process.perform)
    (label : String) :
    process.Keeps (Site.RestsOn label) where
  origin holds rests := rests.originChange serves holds
  partner _ accepted rests := rests.partnerChange accepted

/-- The sites that an event frees. -/
def Perform.freed (perform : Perform) (origin : Nat) (chosen : List Nat) :
    List Nat :=
  match perform with
  | uncover .. => origin :: chosen
  | hop _ => [origin]
  | react _ none _ => origin :: chosen
  | react _ (some _) _ => chosen
  | _ => []

variable [Quantity α]

namespace Run

/-- The sites that a step frees are vacant after it. -/
theorem Moves.vacant_of_mem_freed
    {run next : Run α}
    {process : SurfaceProcess α}
    {pair : LivePair α}
    {state : Site}
    {chosen : List Nat}
    (moves : run.Moves process pair state chosen next)
    {site : Nat}
    (freed : site ∈ process.perform.freed pair.site chosen) :
    ∃ after,
      next.lattice.site? site = some after ∧ after.occupied = false := by
  have origin :
      (process.perform.originChange state).occupied = false →
        ∃ after,
          next.lattice.site? pair.site = some after ∧
            after.occupied = false :=
    fun vacant => ⟨_, moves.site?_origin, vacant⟩
  have partner :
      (∀ other, (process.perform.partnerChange other).occupied = false) →
        site ∈ chosen →
          ∃ after,
            next.lattice.site? site = some after ∧ after.occupied = false := by
    intro vacant member
    rcases moves.site?_partner member with ⟨other, _, _, found⟩
    exact ⟨_, found, vacant other⟩
  cases performed : process.perform with
  | uncover species sites =>
      rw [performed] at freed origin partner
      rcases List.mem_cons.mp freed with rfl | member
      · exact origin rfl
      · exact partner (fun _ => rfl) member
  | hop species =>
      rw [performed] at freed origin
      rw [List.mem_singleton.mp freed]
      exact origin rfl
  | react reactant product grows =>
      rw [performed] at freed origin partner
      cases product with
      | some species => exact partner (fun _ => rfl) freed
      | none =>
          rcases List.mem_cons.mp freed with rfl | member
          · cases grows with
            | false => exact origin rfl
            | true => exact origin rfl
          · exact partner (fun _ => rfl) member
  | _ =>
      rw [performed] at freed
      cases freed

/-- Every reached lattice rests on the substrate. -/
theorem Reaches.restsOn
    {input : SimulationInput α}
    {scenario : Scenario α}
    (comes : Scenario.Comes input scenario)
    {random : RandomSource}
    {run : Run α}
    (reached : (start scenario random).Reaches run) :
    run.lattice.RestsOn scenario.lattice.config.label := by
  have started : scenario.lattice.RestsOn scenario.lattice.config.label := by
    rcases comes.assembled with ⟨config, _, _, latticeEq⟩
    rw [latticeEq, Lattice.config_new]
    exact Lattice.restsOn_new _ _
  have keeps :
      ∀ process ∈ scenario.processes,
        process.Keeps (Site.RestsOn scenario.lattice.config.label) :=
    fun _ member => SurfaceProcess.keeps_restsOn (comes.serves member) _
  exact reached.everywhere comes keeps started

end Run

/--
In every reached lattice the label of the substrate is below every site and on
top of every vacant one; so it shows wherever an event has freed a site, and in
the lattices of results.
-/
theorem substrate_label_restored
    {input : SimulationInput α}
    {scenario : Scenario α}
    (defined : (Scenario.ofInput input).value = .ok scenario)
    (config : RunConfig α) :
    (∀ run,
      (Run.initial scenario config).Reaches run →
        ∀ site state,
          run.lattice.site? site = some state →
            state.below = scenario.lattice.config.label ∧
              (state.occupied = false →
                state.label = scenario.lattice.config.label)) ∧
      (∀ run next process pair,
        (Run.initial scenario config).Reaches run →
          run.advance = .moved next process pair →
            ∃ state chosen,
              run.Moves process pair state chosen next ∧
                ∀ site ∈ process.perform.freed pair.site chosen,
                  ∃ after,
                    next.lattice.site? site = some after ∧
                      after.occupied = false ∧
                        after.label = scenario.lattice.config.label) ∧
        ∀ bound result,
          (solve? bound scenario config).value = some (.ok result) →
            result.lattice.RestsOn scenario.lattice.config.label := by
  have comes := Scenario.comes_of_ofInput defined
  refine ⟨?_, ?_, ?_⟩
  · intro run reached site state found
    have rests := reached.restsOn comes site state found
    exact ⟨rests.below, rests.bare⟩
  · intro run next process pair reached moved
    rcases Run.advance_moved moved with ⟨state, chosen, moves⟩
    refine ⟨state, chosen, moves, ?_⟩
    intro site freed
    rcases moves.vacant_of_mem_freed freed with ⟨after, found, vacant⟩
    have rests := (reached.moved moved).restsOn comes site after found
    exact ⟨after, found, vacant, rests.bare vacant⟩
  · intro bound result solved
    rcases solve?_ok solved with ⟨_, final, _, sound, rfl⟩
    exact sound.reached.restsOn comes

/-- Copper grows under an adsorbate that hops, couples and leaves. -/
def coveredFilmText : String :=
  "build_lattice SimpleCubic 3 2 10 Cu\n" ++
    "nspecies 3\n" ++
    "A 10\n" ++
    "AA 20\n" ++
    "Cu 63.546\n" ++
    "nprocesses 5\n" ++
    "Cu + * -> Cu*, 1.0\n" ++
    "A + * -> A*, 4.0\n" ++
    "A* -> *A, 2.0\n" ++
    "A* + A* -> AA*, 4.0\n" ++
    "AA* -> AA + *, 4.0\n" ++
    "temperature 500\n"

def coveredFilmConfig : RunConfig Float := { limit := .steps 7, seed := 37 }

theorem substrate_label_restored_covered :
    ∃ input scenario run next process pair after,
      (SimulationInput.read coveredFilmText).value = .ok input ∧
        (Scenario.ofInput input).value = .ok scenario ∧
          (Run.initial scenario coveredFilmConfig).Reaches run ∧
            run.advance = .moved next process pair ∧
              next.events = [1, 3, 1, 1, 1] ∧
                process.perform = .uncover "AA" 1 ∧
                  next.lattice.site? pair.site = some after ∧
                    after.occupied = false ∧
                      after.label = scenario.lattice.config.label ∧
                        after.below = scenario.lattice.config.label := by
  have ahead :
      ((Scenario.ofText? coveredFilmText).any fun scenario =>
        ((Run.initial scenario coveredFilmConfig).after 6).any fun run =>
          run.advance.moved?.any fun step =>
            step.1.events == [1, 3, 1, 1, 1] &&
              step.2.1.perform == .uncover "AA" 1) = true := by
    decide +kernel
  rcases (Option.any_eq_true _ _).mp ahead with ⟨scenario, found, runs⟩
  rcases (Option.any_eq_true _ _).mp runs with ⟨run, runFound, steps⟩
  rcases (Option.any_eq_true _ _).mp steps with
    ⟨⟨next, process, pair⟩, stepped, checked⟩
  rcases Bool.and_eq_true_iff.mp checked with ⟨counted, performed⟩
  rcases Scenario.ofInput_of_ofText? found with ⟨input, read, defined⟩
  have reached := (Run.reaches_of_after runFound).1
  have moved := Run.Advance.eq_of_moved? stepped
  have performEq : process.perform = .uncover "AA" 1 := eq_of_beq performed
  rcases substrate_label_restored defined coveredFilmConfig with
    ⟨labels, restored, _⟩
  rcases restored run next process pair reached moved with
    ⟨state, chosen, _, freed⟩
  rw [performEq] at freed
  rcases freed pair.site List.mem_cons_self with
    ⟨after, afterFound, vacant, label⟩
  have below := (labels next (reached.moved moved) _ _ afterFound).1
  exact
    ⟨input, scenario, run, next, process, pair, after, read, defined, reached,
      moved, eq_of_beq counted, performEq, afterFound, vacant, label, below⟩

end SurfaceKinetics
