import SurfaceKinetics.Proofs.Ledger.Entries
import SurfaceKinetics.Proofs.Quantity.Binary64
import SurfaceKinetics.Proofs.Simulation.Floor
import SurfaceKinetics.Proofs.Simulation.Stopping
import SurfaceKinetics.Proofs.SurfaceProcess.Depletion

/-!
# Runs that use up their surface

When all processes use up vacant sites or columns above the floor, a run executes
no more events than there were vacant sites and layers at its start, whatever its
limit.  When their events need no partners and always have positive rates, such a
run goes on until nothing is left for them: the surface is full, or bare.
-/

namespace SurfaceKinetics

/-! ## What is left of a lattice -/

theorem netTotal_nonneg
    {changes : List Int}
    (nonnegative : ∀ change ∈ changes, 0 ≤ change) :
    0 ≤ netTotal changes := by
  induction changes with
  | nil => exact Int.le_refl 0
  | cons first rest induction =>
      rcases List.forall_mem_cons.mp nonnegative with ⟨here, there⟩
      rw [netTotal_cons]
      exact Int.add_nonneg here (induction there)

namespace Lattice

/-- The number of vacant sites. -/
def vacancies (lattice : Lattice) : Nat :=
  lattice.sites.toList.countP fun site => !site.occupied

/-- What is left of a lattice: its vacant sites and its layers. -/
theorem tally_reserve (lattice : Lattice) :
    lattice.tally Site.reserve =
      lattice.vacancies + netTotal lattice.heights := by
  rw [tally, vacancies, heights]
  induction lattice.sites.toList with
  | nil => rfl
  | cons site sites induction =>
      rw [List.map_cons, netTotal_cons, induction, List.countP_cons,
        List.map_cons, netTotal_cons, Site.reserve]
      cases site.occupied <;> simp <;> omega

theorem Grounded.tally_reserve_nonneg
    {lattice : Lattice}
    (above : lattice.Grounded) :
    0 ≤ lattice.tally Site.reserve := by
  have layers := netTotal_nonneg above
  rw [tally_reserve]
  omega

end Lattice

variable {α : Type} [Quantity α]

namespace Run

/-- An event uses up as much of what is left as it has sites. -/
theorem Moves.tally_reserve
    {run next : Run α}
    {process : SurfaceProcess α}
    {pair : LivePair α}
    {state : Site}
    {chosen : List Nat}
    (moves : run.Moves process pair state chosen next)
    (coherent : run.Coherent)
    (depletes : Depletes process.category process.rule process.perform) :
    next.lattice.tally Site.reserve =
      run.lattice.tally Site.reserve - process.perform.sites := by
  have sitesPos := depletes.sites_pos
  have partnersEq :
      (process.perform.partners : Int) = process.perform.sites - 1 := by
    rw [Perform.partners]
    omega
  rw [moves.tally_eq Site.reserve
      (depletes.reserve_originChange (moves.holdsAt coherent))
      fun other accepted => depletes.reserve_partnerChange accepted,
    partnersEq]
  omega

end Run

theorem Rule.holdsAt_of_not_isEligible
    {rule : Rule}
    {lattice : Lattice}
    {site : Nat}
    {state : Site}
    (found : lattice.site? site = some state)
    (barred : ¬ rule.isEligible lattice site = true) :
    rule.holdsAt lattice site state = false := by
  rw [Bool.eq_false_iff]
  exact fun holds => barred (isEligible_iff.mpr ⟨state, found, holds⟩)

/-- A scenario of an input whose processes use up a surface above the floor. -/
structure Scenario.Depletes
    (input : SimulationInput α)
    (scenario : Scenario α) : Prop where
  comes : Scenario.Comes input scenario
  grounded : scenario.lattice.Grounded
  depletes :
    ∀ process ∈ scenario.processes,
      SurfaceKinetics.Depletes process.category process.rule process.perform

section Depleting

variable
    {input : SimulationInput α}
    {scenario : Scenario α}
    (depleting : scenario.Depletes input)
    {random : RandomSource}
    {run : Run α}
    (reached : (Run.start scenario random).Reaches run)

include depleting reached

theorem Scenario.Depletes.grounded_of_reaches : run.lattice.Grounded := by
  have keeps :
      ∀ process ∈ scenario.processes, process.Keeps Site.Grounded :=
    fun process member =>
      SurfaceProcess.keeps_grounded (depleting.comes.serves member)
        (depleting.depletes process member).rule_ne
  have started := depleting.grounded
  rw [Lattice.grounded_iff_everywhere] at started ⊢
  exact reached.everywhere depleting.comes keeps started

/-- Every event uses something up. -/
theorem Scenario.Depletes.tally_lt
    {next : Run α}
    {process : SurfaceProcess α}
    {pair : LivePair α}
    (moved : run.advance = .moved next process pair) :
    next.lattice.tally Site.reserve < run.lattice.tally Site.reserve := by
  rcases Run.advance_moved moved with ⟨state, chosen, moves⟩
  have depletes := depleting.depletes process (reached.process_mem moves)
  have coherent := reached.coherent_of_comes depleting.comes
  have sitesPos := depletes.sites_pos
  rw [moves.tally_reserve coherent depletes]
  omega

/-- Every event takes its share of what was left at the start. -/
theorem Scenario.Depletes.step_add_tally_le :
    run.step + run.lattice.tally Site.reserve ≤
      scenario.lattice.tally Site.reserve := by
  induction reached with
  | refl => exact Int.le_of_eq (Int.zero_add _)
  | moved earlier step induction =>
      rcases Run.advance_moved step with ⟨state, chosen, moves⟩
      have less := depleting.tally_lt earlier step
      rw [moves.step_eq]
      omega

theorem Scenario.Depletes.step_le :
    run.step ≤
      scenario.lattice.vacancies + netTotal scenario.lattice.heights := by
  have share := depleting.step_add_tally_le reached
  have left := (depleting.grounded_of_reaches reached).tally_reserve_nonneg
  rw [scenario.lattice.tally_reserve] at share
  omega

/-- Where no process is eligible, nothing is left that an event could use up. -/
theorem Scenario.Depletes.exhausted
    (lone : ∀ process ∈ scenario.processes, process.requiredSites = 1)
    (nothing :
      ∀ process site, ¬ scenario.Eligible run.lattice process site) :
    ((∃ process ∈ scenario.processes, process.category = .adsorption) →
      ∀ site state,
        run.lattice.site? site = some state → state.occupied = true) ∧
      ((∃ process ∈ scenario.processes, process.category = .desorption) →
        ∀ height ∈ run.lattice.heights, height = 0) := by
  have barred :
      ∀ process ∈ scenario.processes, ∀ site state,
        run.lattice.site? site = some state →
          process.rule.holdsAt run.lattice site state = false :=
    fun process member site state found =>
      Rule.holdsAt_of_not_isEligible found fun eligible =>
        nothing process site ⟨member, eligible⟩
  constructor
  · rintro ⟨process, member, adsorbs⟩ site state found
    have single := process.requiredSites_eq.symm.trans (lone process member)
    exact
      (depleting.depletes process member).occupied_of_barred adsorbs single
        (barred process member site state found)
  · rintro ⟨process, member, desorbs⟩
    have above := depleting.grounded_of_reaches reached
    have floored : ∀ height ∈ run.lattice.heights, height ≤ 0 := by
      rw [Lattice.forall_mem_heights_iff]
      intro site state found
      have single := process.requiredSites_eq.symm.trans (lone process member)
      exact
        (depleting.depletes process member).height_le_of_barred desorbs single
          (barred process member site state found)
    exact fun height heightMember =>
      Int.le_antisymm (floored height heightMember) (above height heightMember)

end Depleting

/-- What is left bounds the run, so it ends without any limit. -/
theorem Scenario.Depletes.exists_answer
    {input : SimulationInput α}
    {scenario : Scenario α}
    (depleting : scenario.Depletes input)
    (config : RunConfig α)
    {bound : Nat}
    (enough :
      scenario.lattice.vacancies + netTotal scenario.lattice.heights < bound) :
    ∃ answer, (solve? bound scenario config).value = some answer := by
  apply exists_answer_of_drive
  apply Run.drive_isSome fun run => (run.lattice.tally Site.reserve).toNat
  · intro run next passes turned
    rcases Run.turn_ok turned with ⟨_, process, pair, moved⟩
    have reached := passes.reaches
    have less := depleting.tally_lt reached moved
    have left :=
      (depleting.grounded_of_reaches
        (reached.moved moved)).tally_reserve_nonneg
    omega
  · show (scenario.lattice.tally Site.reserve).toNat < bound
    have left := depleting.grounded.tally_reserve_nonneg
    rw [scenario.lattice.tally_reserve] at left ⊢
    omega

/-! ## Runs that go on until nothing is left -/

section Positive

variable [PositiveSums α]

/-- Where something is live and all rates are positive, so is their total. -/
theorem EventTable.totalRate_pos
    {table : EventTable α}
    (positive : ∀ pair ∈ table.pairs, Quantity.zero < pair.rate)
    {pair : LivePair α}
    (live : pair ∈ table.pairs) :
    Quantity.zero < table.totalRate := by
  have ratesAccrued :
      ∀ row ∈ table.rows, ∀ rate ∈ rates row, Quantity.Accrued rate := by
    intro row rowMember rate member
    rcases exists_pair_of_mem_rates rowMember member with ⟨pair, live, rfl⟩
    exact Or.inr (positive pair live)
  have sumsAccrued :
      ∀ sum ∈ table.rows.map fun row => Quantity.sum (rates row),
        Quantity.Accrued sum := by
    intro sum member
    rcases List.mem_map.mp member with ⟨row, rowMember, rfl⟩
    exact Quantity.accrued_sum (ratesAccrued row rowMember)
  rcases exists_row_of_mem_pairs live with ⟨row, rowMember, rateMember⟩
  have rowPos : Quantity.zero < Quantity.sum (rates row) :=
    Quantity.sum_pos (ratesAccrued row rowMember) rateMember
      (positive pair live)
  exact
    Quantity.sum_pos sumsAccrued (List.mem_map_of_mem rowMember) rowPos

/-- With positive rates a run stalls only where nothing is eligible. -/
theorem Run.Stalls.empty_of_positive
    {run : Run α}
    {reason : StopReason}
    (stalls : run.Stalls reason)
    (positive : ∀ pair ∈ run.table.pairs, Quantity.zero < pair.rate) :
    reason = .noEligibleEvents ∧ ∀ pair, pair ∉ run.table.pairs := by
  cases stalls with
  | empty nothing => exact ⟨rfl, nothing⟩
  | total live nothing =>
      exact
        absurd nothing
          (PositiveSums.not_le_zero (EventTable.totalRate_pos positive live))
  | rates live nothing =>
      exact
        absurd (nothing _ live) (PositiveSums.not_le_zero (positive _ live))

end Positive

section Exhausted

variable
    [PositiveSums α]
    {scenario : Scenario α}
    {config : RunConfig α}
    (positive :
      ∀ process ∈ scenario.processes, ∀ run,
        (Run.initial scenario config).Reaches run →
          ∀ site < run.lattice.size,
            Quantity.zero <
              process.rate scenario.conditions run.lattice site)

include positive

/-- With positive rates a run that no limit stops ends where nothing may happen. -/
theorem barred_of_solve?
    {bound : Nat}
    {result : SimulationResult α}
    (solved : (solve? bound scenario config).value = some (.ok result))
    (notTime : result.stopReason ≠ .endTime)
    (notSteps : result.stopReason ≠ .maxSteps) :
    ∃ run,
      (Run.initial scenario config).Reaches run ∧
        result.lattice = run.lattice ∧
          result.stopReason = .noEligibleEvents ∧
            ∀ process site, ¬ scenario.Eligible run.lattice process site := by
  rcases solve?_stopped solved with ⟨run, visits, stopped, shown⟩
  have reached := (RunConfig.visits_iff.mp visits).reaches
  have current : run.Current := reached.current
  have scenarioEq : run.scenario = scenario := reached.scenario_eq
  refine ⟨run, reached, congrArg Outcome.lattice shown, ?_⟩
  rcases Run.turn_stopped stopped with limited | stalled
  · rcases RunLimit.stopReason?_eq_some limited with
      ⟨reasonEq, _⟩ | ⟨reasonEq, _⟩
    · exact absurd reasonEq notTime
    · exact absurd reasonEq notSteps
  · have ratesPos : ∀ pair ∈ run.table.pairs, Quantity.zero < pair.rate := by
      intro pair live
      rcases current.exists_eligible live with ⟨process, may, rateEq⟩
      rw [scenarioEq] at may rateEq
      rcases Rule.isEligible_iff.mp may.eligible with ⟨state, found, _⟩
      rw [rateEq]
      exact
        positive process may.member run reached pair.site
          (run.lattice.lt_size_of_site? found)
    rcases (Run.advance_stalled current stalled).empty_of_positive ratesPos
      with ⟨reasonEq, nothing⟩
    refine ⟨reasonEq, ?_⟩
    intro process site may
    rw [← scenarioEq] at may
    rcases current.exists_pair may with ⟨pair, live, _⟩
    exact nothing pair live

end Exhausted

/-! ## Results -/

/--
A run of processes that cover vacant sites or lower columns above the floor
executes no more events than there are vacant sites and layers at its start, so
it ends without any limit.  When their events have one site each and positive
rates, it ends only where no site is vacant, if something adsorbs, and no column
is above the floor, if something desorbs.
-/
theorem irreversible_run_exhausts
    [PositiveSums α]
    {input : SimulationInput α}
    {scenario : Scenario α}
    (defined : (Scenario.ofInput input).value = .ok scenario)
    (grounded : scenario.lattice.Grounded)
    (irreversible : ∀ process ∈ scenario.processes, process.Irreversible)
    (config : RunConfig α) :
    (∀ run,
      (Run.initial scenario config).Reaches run →
        (run.step : Int) ≤
          scenario.lattice.vacancies + netTotal scenario.lattice.heights) ∧
      (∀ bound : Nat,
        scenario.lattice.vacancies + netTotal scenario.lattice.heights < bound →
          ∃ answer, (solve? bound scenario config).value = some answer) ∧
        ((∀ process ∈ scenario.processes,
            process.requiredSites = 1 ∧
              ∀ run,
                (Run.initial scenario config).Reaches run →
                  ∀ site < run.lattice.size,
                    Quantity.zero <
                      process.rate scenario.conditions run.lattice site) →
          ∀ bound result,
            (solve? bound scenario config).value = some (.ok result) →
              result.stopReason ≠ .endTime →
                result.stopReason ≠ .maxSteps →
                  result.stopReason = .noEligibleEvents ∧
                    ((∃ process ∈ scenario.processes,
                        process.category = .adsorption) →
                      ∀ site state,
                        result.lattice.site? site = some state →
                          state.occupied = true) ∧
                      ((∃ process ∈ scenario.processes,
                          process.category = .desorption) →
                        ∀ height ∈ result.lattice.heights, height = 0)) := by
  have comes := Scenario.comes_of_ofInput defined
  have depleting : scenario.Depletes input :=
    { comes
      grounded
      depletes := by
        intro process member
        rcases comes.bound process member with ⟨descriptor, _, bound⟩
        exact (irreversible process member).depletes bound }
  refine
    ⟨fun run reached => depleting.step_le reached,
      fun bound enough => depleting.exists_answer config enough, ?_⟩
  intro lively bound result solved notTime notSteps
  rcases barred_of_solve? (fun process member => (lively process member).2)
    solved notTime notSteps with
    ⟨run, reached, latticeEq, reasonEq, nothing⟩
  rw [latticeEq]
  exact
    ⟨reasonEq,
      depleting.exhausted reached
        (fun process member => (lively process member).1) nothing⟩

/-- Copper that evaporates from one layer while oxygen covers it. -/
def corrodingText : String :=
  "build_lattice SimpleCubic 2 2 1 Cu\n" ++
    "nspecies 2\n" ++
    "Cu 63.546\n" ++
    "O 15.999\n" ++
    "nprocesses 2\n" ++
    "Cu* -> Cu + *, 1.0\n" ++
    "O + * -> O*, 1.0\n" ++
    "temperature 500\n"

def corrodingConfig : RunConfig Float := { limit := .steps 20, seed := 5 }

/-- Whether a law is a constant positive rate. -/
def RateLaw.isSteady : RateLaw α → Bool
  | constant rate => Quantity.isPositive rate
  | _ => false

theorem RateLaw.siteRate_pos_of_isSteady
    {law : RateLaw α}
    (steady : law.isSteady = true)
    (conditions : Conditions α)
    (occupiedNeighbours : Nat) :
    Quantity.zero < law.siteRate conditions occupiedNeighbours := by
  cases law with
  | constant rate => exact of_decide_eq_true steady
  | hertzKnudsen => cases steady
  | arrhenius => cases steady
  | diffusionArrhenius => cases steady

theorem irreversible_run_exhausts_corroding :
    ∃ (input : SimulationInput Float) (scenario : Scenario Float)
      (result : SimulationResult Float),
      (SimulationInput.read corrodingText).value = .ok input ∧
        (Scenario.ofInput input).value = .ok scenario ∧
          scenario.lattice.Grounded ∧
            (∀ process ∈ scenario.processes, process.Irreversible) ∧
              (scenario.lattice.vacancies = 4 ∧
                netTotal scenario.lattice.heights = 4) ∧
                (solve? 9 scenario corrodingConfig).value =
                    some (.ok result) ∧
                  result.steps = 8 ∧
                    result.stopReason = .noEligibleEvents ∧
                      (∀ site state,
                        result.lattice.site? site = some state →
                          state.occupied = true) ∧
                        ∀ height ∈ result.lattice.heights, height = 0 := by
  have ahead :
      ((Scenario.ofText? corrodingText).any fun scenario =>
        (scenario.lattice.heights.all (0 ≤ ·) &&
            scenario.lattice.vacancies = 4 &&
              netTotal scenario.lattice.heights = 4) &&
          scenario.processes.all (fun process =>
            process.requiredSites = 1 && process.rateLaw.isSteady &&
              (process.category = .adsorption && process.mode = .label ||
                process.category = .desorption && process.mode = .height &&
                  process.rule = .elevated 0)) &&
            scenario.processes.any (·.category = .adsorption) &&
              scenario.processes.any (·.category = .desorption) &&
                (result? 9 scenario corrodingConfig).any fun result =>
                  result.steps = 8 &&
                    result.stopReason = .noEligibleEvents) = true := by
    decide +kernel
  rcases (Option.any_eq_true _ _).mp ahead with ⟨scenario, found, checked⟩
  simp only [Bool.and_eq_true, List.all_eq_true, List.any_eq_true,
    Option.any_eq_true, Bool.or_eq_true, decide_eq_true_eq] at checked
  rcases checked with
    ⟨⟨⟨⟨⟨⟨heights, vacancies⟩, layers⟩, admitted⟩, adsorbs⟩, desorbs⟩, result,
      resultFound, steps, reason⟩
  rcases Scenario.ofInput_of_ofText? found with ⟨input, read, defined⟩
  have irreversible :
      ∀ process ∈ scenario.processes, process.Irreversible := by
    intro process member
    rcases (admitted process member).2 with
      ⟨categoryEq, modeEq⟩ | ⟨⟨categoryEq, modeEq⟩, ruleEq⟩
    · exact .adsorption categoryEq modeEq
    · exact .desorption categoryEq modeEq ruleEq
  have lively :
      ∀ process ∈ scenario.processes,
        process.requiredSites = 1 ∧
          ∀ run,
            (Run.initial scenario corrodingConfig).Reaches run →
              ∀ site < run.lattice.size,
                Quantity.zero <
                  process.rate scenario.conditions run.lattice site := by
    intro process member
    have steady := (admitted process member).1.2
    exact
      ⟨(admitted process member).1.1, fun _ _ _ _ =>
        RateLaw.siteRate_pos_of_isSteady steady _ _⟩
  have solved := solve?_of_result? resultFound
  have exhausts :=
    irreversible_run_exhausts defined heights irreversible corrodingConfig
  rcases exhausts.2.2 lively 9 result solved (by rw [reason]; decide)
    (by rw [reason]; decide) with ⟨_, covered, bare⟩
  exact
    ⟨input, scenario, result, read, defined, heights, irreversible,
      ⟨vacancies, layers⟩, solved, steps, reason, covered adsorbs,
      bare desorbs⟩

end SurfaceKinetics
