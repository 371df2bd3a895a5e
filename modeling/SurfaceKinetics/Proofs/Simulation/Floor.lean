import SurfaceKinetics.Proofs.Simulation.EverySite
import SurfaceKinetics.Proofs.Simulation.Fitting

/-!
# The floor

Height zero is the floor below all columns.  Rules that ask for a column above
the floor keep the events of their performs above it, partners included, since
partners of a desorption are as high as its origin.  The rule that asks for all
neighbours being occupied looks at heights only relative to each other, and its
desorption lowers a column on the floor below it; nothing else does.
-/

namespace SurfaceKinetics

/-- The column of a site reaches the floor. -/
def Site.Grounded (site : Site) : Prop := 0 ≤ site.height

/-- All columns reach the floor. -/
def Lattice.Grounded (lattice : Lattice) : Prop :=
  ∀ height ∈ lattice.heights, 0 ≤ height

instance (lattice : Lattice) : Decidable lattice.Grounded :=
  inferInstanceAs (Decidable (∀ height ∈ _, 0 ≤ height))

theorem Lattice.grounded_iff_everywhere {lattice : Lattice} :
    lattice.Grounded ↔ lattice.Everywhere Site.Grounded :=
  forall_mem_heights_iff

namespace Site.Grounded

variable {site : Site} (above : site.Grounded)

include above

theorem raise : (site.raise 1).Grounded :=
  Int.add_nonneg above (by decide)

theorem reacted (product : Option String) (grows : Bool) :
    (Perform.reacted product grows site).Grounded := by
  cases grows with
  | false => cases product <;> exact above
  | true => cases product <;> exact above.raise

end Site.Grounded

/-- A column above the floor may be lowered. -/
theorem Site.grounded_lower_iff {site : Site} :
    (site.raise (-1)).Grounded ↔ 0 < site.height := by
  rw [Grounded, raise]
  dsimp only
  omega

section Serves

variable
    {rule : Rule}
    {perform : Perform}
    (serves : rule.Serves perform)
    (restrained : rule ≠ .allNeighboursOccupied)
    {lattice : Lattice}
    {origin : Nat}
    {state : Site}
    (holds : rule.holdsAt lattice origin state = true)

include serves restrained holds

/-- A served perform leaves the column of its origin grounded. -/
theorem Rule.Serves.grounded_originChange (above : state.Grounded) :
    (perform.originChange state).Grounded := by
  cases serves with
  | raise => exact above.raise
  | raiseCluster extra => exact above.raise
  | lower => exact (restrained rfl).elim
  | lowerCluster extra =>
      simp only [Rule.holdsAt, Bool.and_eq_true, decide_eq_true_eq] at holds
      exact Site.grounded_lower_iff.mpr holds.1
  | cover species => exact above
  | coverCluster species extra => exact above
  | uncover species extra => exact above
  | hopHeight =>
      simp only [Rule.holdsAt, Bool.and_eq_true, decide_eq_true_eq] at holds
      exact Site.grounded_lower_iff.mpr holds.1
  | hop species => exact above
  | react first partner product grows => exact above.reacted product grows

/-- The partners of a desorption are as far above the floor as its origin. -/
theorem Rule.Serves.grounded_partnerChange
    {other : Site}
    (accepted : perform.acceptsPartner state other = true)
    (above : other.Grounded) :
    (perform.partnerChange other).Grounded := by
  cases serves with
  | raise => exact above.raise
  | raiseCluster extra => exact above.raise
  | lower => exact (restrained rfl).elim
  | lowerCluster extra =>
      simp only [Rule.holdsAt, Bool.and_eq_true, decide_eq_true_eq] at holds
      have level : other.height = state.height := eq_of_beq accepted
      exact Site.grounded_lower_iff.mpr (level ▸ holds.1)
  | cover species => exact above
  | coverCluster species extra => exact above
  | uncover species extra => exact above
  | hopHeight => exact above.raise
  | hop species => exact above
  | react first partner product grows => exact above

end Serves

variable {α : Type}

/-- Processes with another rule keep all columns grounded. -/
theorem SurfaceProcess.keeps_grounded
    {process : SurfaceProcess α}
    (serves : process.rule.Serves process.perform)
    (restrained : process.rule ≠ .allNeighboursOccupied) :
    process.Keeps Site.Grounded where
  origin holds above := serves.grounded_originChange restrained holds above
  partner holds accepted above :=
    serves.grounded_partnerChange restrained holds accepted above

variable [Quantity α]

namespace Run

/-- A desorption with all neighbours occupied lowers its origin and nothing else. -/
theorem Moves.grounded_iff_of_allNeighboursOccupied
    {run next : Run α}
    {process : SurfaceProcess α}
    {pair : LivePair α}
    {state : Site}
    {chosen : List Nat}
    (moves : run.Moves process pair state chosen next)
    (serves : process.rule.Serves process.perform)
    (ruleEq : process.rule = .allNeighboursOccupied)
    (above : run.lattice.Grounded) :
    next.lattice.Grounded ↔ 0 < state.height := by
  rw [Lattice.grounded_iff_everywhere] at above ⊢
  have performEq : process.perform = .lowerHeight 1 := by
    rw [ruleEq] at serves
    generalize process.perform = perform at serves ⊢
    cases serves with
    | lower => rfl
  have alone : chosen = [] := by
    have lengthEq := moves.picks.length_eq
    rw [performEq] at lengthEq
    exact List.length_eq_zero_iff.mp lengthEq
  rw [← Site.grounded_lower_iff]
  constructor
  · intro later
    have lowered := later _ _ moves.site?_origin
    rw [performEq] at lowered
    exact lowered
  · intro lowered site after found
    rw [moves.site?_eq, alone, if_neg List.not_mem_nil] at found
    split at found
    · next equal =>
        subst equal
        rw [moves.picks.found, Option.map_some, performEq] at found
        cases found
        exact lowered
    · exact above site after found

end Run

/--
In 32 bits no event digs below the floor unless its rule asks for nothing but occupied
neighbours; such an event does so exactly when its column stands on the floor.  The
lattices that are reached have heights that fit.
-/
theorem floor_kept
    {input : SimulationInput α}
    {scenario : Scenario α}
    (short :
      ∀ config, input.lattice = some config → IsShort config.initialHeight)
    (defined : (Scenario.ofInput? input).value? = some (.ok scenario))
    (config : RunConfig α) :
    (scenario.lattice.Grounded →
      (∀ process ∈ scenario.processes,
        process.rule ≠ .allNeighboursOccupied) →
          ∀ run,
            (Run.initial scenario config).ReachesChecked run →
              run.lattice.Grounded ∧ run.lattice.Fits) ∧
      ∀ run next process pair,
        (Run.initial scenario config).ReachesChecked run →
          run.advance? = some (.moved next process pair) →
            run.lattice.Grounded →
              ∃ state,
                run.lattice.site? pair.site = some state ∧
                  (next.lattice.Grounded ↔
                    process.rule ≠ .allNeighboursOccupied ∨
                      0 < state.height) := by
  have comes := Scenario.comes_of_ofInput (Scenario.ofInput_of_ofInput? defined)
  have fits : (Run.initial scenario config).lattice.Fits :=
    Scenario.fits_of_ofInput? short defined
  constructor
  · intro started restrained run reachedChecked
    rcases reachedChecked.reaches fits with ⟨reached, runFits⟩
    have keeps :
        ∀ process ∈ scenario.processes, process.Keeps Site.Grounded :=
      fun process member =>
        SurfaceProcess.keeps_grounded (comes.serves member)
          (restrained process member)
    rw [Lattice.grounded_iff_everywhere] at started ⊢
    exact ⟨reached.everywhere comes keeps started, runFits⟩
  · intro run next process pair reachedChecked movedChecked above
    rcases reachedChecked.reaches fits with ⟨reached, runFits⟩
    rcases Run.advance_moved_of_advance? runFits movedChecked with ⟨moved, _⟩
    rcases Run.advance_moved moved with ⟨state, chosen, moves⟩
    have serves := comes.serves (reached.process_mem moves)
    refine ⟨state, moves.picks.found, ?_⟩
    by_cases ruleEq : process.rule = .allNeighboursOccupied
    · rw [moves.grounded_iff_of_allNeighboursOccupied serves ruleEq above]
      exact (or_iff_right (not_not_intro ruleEq)).symm
    · have coherent := reached.coherent_of_comes comes
      rw [Lattice.grounded_iff_everywhere] at above ⊢
      have kept :=
        moves.everywhere coherent
          (SurfaceProcess.keeps_grounded serves ruleEq) above
      exact iff_of_true kept (Or.inl ruleEq)

/-- Copper that evaporates from a layer above the floor and rearranges on it. -/
def thinFilmText : String :=
  "build_lattice SimpleCubic 2 2 1 Cu\n" ++
    "nspecies 1\n" ++
    "Cu 63.546\n" ++
    "nprocesses 2\n" ++
    "Cu* -> Cu + *, 1.0\n" ++
    "Cu* -> *Cu, 1.0\n" ++
    "temperature 500\n"

def thinFilmConfig : RunConfig Float := { limit := .steps 4, seed := 3 }

theorem floor_kept_thinFilm :
    ∃ input scenario run,
      (SimulationInput.read? thinFilmText).value? = some (.ok input) ∧
        (Scenario.ofInput? input).value? = some (.ok scenario) ∧
          scenario.lattice.Grounded ∧
            (∀ process ∈ scenario.processes,
              process.rule ≠ .allNeighboursOccupied) ∧
              (Run.initial scenario thinFilmConfig).ReachesChecked run ∧
                run.step = 4 ∧ run.lattice.Grounded ∧ run.lattice.Fits := by
  have ahead :
      ((Scenario.ofShortText? thinFilmText).any fun scenario =>
        (scenario.lattice.Grounded &&
            scenario.processes.all (·.rule ≠ .allNeighboursOccupied)) &&
          ((Run.initial scenario thinFilmConfig).after? 4).any (·.step = 4)) =
        true := by
    decide +kernel
  rcases (Option.any_eq_true _ _).mp ahead with ⟨scenario, found, checked⟩
  rcases Bool.and_eq_true_iff.mp checked with ⟨admitted, advanced⟩
  rcases Bool.and_eq_true_iff.mp admitted with ⟨ground, rules⟩
  rcases (Option.any_eq_true _ _).mp advanced with ⟨run, runFound, stepEq⟩
  have reached := Run.reachesChecked_of_after? runFound
  rcases Scenario.ofInput?_of_ofShortText? found with ⟨input, read, short, defined⟩
  have grounded : scenario.lattice.Grounded := of_decide_eq_true ground
  have restrained :
      ∀ process ∈ scenario.processes,
        process.rule ≠ .allNeighboursOccupied :=
    fun process member => of_decide_eq_true (List.all_eq_true.mp rules _ member)
  exact
    ⟨input, scenario, run, read, defined, grounded, restrained, reached,
      of_decide_eq_true stepEq,
      (floor_kept short defined thinFilmConfig).1 grounded restrained run reached⟩

/-- Copper on the floor that evaporates where all neighbours are as high. -/
def bareFloorText : String :=
  "build_lattice SimpleCubic 2 2 0 Cu\n" ++
    "nspecies 1\n" ++
    "Cu 63.546\n" ++
    "nprocesses 1\n" ++
    "Cu* -> Cu + *, 1.0 all\n" ++
    "temperature 500\n"

def bareFloorConfig : RunConfig Float := { limit := .steps 1, seed := 1 }

/-- The first event of a run may leave a column below the floor. -/
theorem floor_broken_bareFloor :
    ∃ input scenario run,
      (SimulationInput.read? bareFloorText).value? = some (.ok input) ∧
        (Scenario.ofInput? input).value? = some (.ok scenario) ∧
          scenario.lattice.Grounded ∧
            (Run.initial scenario bareFloorConfig).ReachesChecked run ∧
              run.step = 1 ∧ ¬ run.lattice.Grounded := by
  have ahead :
      ((Scenario.ofShortText? bareFloorText).any fun scenario =>
        scenario.lattice.Grounded &&
          ((Run.initial scenario bareFloorConfig).after? 1).any fun run =>
            run.step = 1 && run.lattice.heights.contains (-1)) = true := by
    decide +kernel
  rcases (Option.any_eq_true _ _).mp ahead with ⟨scenario, found, checked⟩
  rcases Bool.and_eq_true_iff.mp checked with ⟨ground, runs⟩
  rcases (Option.any_eq_true _ _).mp runs with ⟨run, runFound, ended⟩
  rcases Bool.and_eq_true_iff.mp ended with ⟨stepEq, dug⟩
  rcases Scenario.ofInput?_of_ofShortText? found with ⟨input, read, _, defined⟩
  have grounded : scenario.lattice.Grounded := of_decide_eq_true ground
  refine
    ⟨input, scenario, run, read, defined, grounded,
      Run.reachesChecked_of_after? runFound, of_decide_eq_true stepEq, ?_⟩
  intro above
  exact absurd (above (-1) (List.contains_iff_mem.mp dug)) (by decide)

end SurfaceKinetics
