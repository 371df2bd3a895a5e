import Mathlib.Tactic.Linarith
import SurfaceKinetics.Proofs.Ledger.Height
import SurfaceKinetics.Proofs.Random.Uniform
import SurfaceKinetics.Proofs.Simulation.Observation

/-!
# Sampled trajectories

The samples of a result stand in the order of the events: the first shows the run
before its first event, the last shows it at its end, and between two of them no
process loses events.

In between, samples are taken by a clock.  The next report is due at the first
multiple of the report interval after the last sample, however many intervals an
event has skipped; so an event is sampled exactly when time has passed a multiple
of the interval since the event before it.
-/

namespace SurfaceKinetics

variable {α : Type}

/-! ## Time -/

namespace Run

section Time

variable [ExactQuantity α]

theorem waitingTime_nonneg
    {total : α}
    (positive : 0 < total) :
    RandomSource.Surely (waitingTime total) (0 ≤ ·) := by
  apply RandomSource.Surely.map
  refine RandomSource.uniformOpen_mem.mono ?_
  rintro share ⟨sharePos, shareLe⟩
  have ln_nonpos := ExactQuantity.ln_nonpos sharePos shareLe
  exact div_nonneg (neg_nonneg.mpr ln_nonpos) positive.le

theorem totalRate_pos_of_selected
    {run : Run α}
    {pair : LivePair α}
    {random : RandomSource}
    (chosen : run.choose = .ok (.selected pair, random)) :
    0 < run.table.totalRate := by
  simp only [choose] at chosen
  split at chosen
  · cases chosen
  · split at chosen
    · cases chosen
    · split at chosen
      · cases chosen
      · next positive =>
          rw [Quantity.zero_eq, not_le] at positive
          exact positive

/-- An event takes the waiting time that a source yields at the total rate. -/
theorem exists_time_eq_of_execute
    {run next : Run α}
    {process : SurfaceProcess α}
    {pair : LivePair α}
    (executed : run.execute process pair = .ok next) :
    ∃ source,
      next.time =
        run.time + ((waitingTime run.table.totalRate).run source).1 := by
  simp only [execute] at executed
  split at executed
  · cases executed
  · next event afterwards _ =>
      cases executed
      exact ⟨afterwards, rfl⟩

/-- Time does not run backwards. -/
theorem time_le_of_advance
    {run next : Run α}
    {process : SurfaceProcess α}
    {pair : LivePair α}
    (moved : run.advance = .moved next process pair) :
    run.time ≤ next.time := by
  rw [advance] at moved
  split at moved
  · cases moved
  · cases moved
  · next chosenPair random selected =>
      split at moved
      · cases moved
      · unfold Advance.ofOutcome at moved
        split at moved
        · next executed =>
            cases moved
            rcases exists_time_eq_of_execute executed with ⟨source, timeEq⟩
            have totalPos := totalRate_pos_of_selected selected
            have waitNonneg := waitingTime_nonneg totalPos source
            rw [timeEq]
            exact le_add_of_nonneg_right waitNonneg
        · cases moved

end Time

end Run

/-! ## The clock -/

/-- A time interval, open at its beginning, holds a multiple of a period. -/
def Crosses [Field α] [LinearOrder α] (period earlier later : α) : Prop :=
  ∃ multiple : Int, earlier < multiple * period ∧ multiple * period ≤ later

/-- A time is the first multiple of a period after another one. -/
def FirstMultiple [Field α] [LinearOrder α] (period now due : α) : Prop :=
  ∃ multiple : Int,
    due = multiple * period ∧ (multiple - 1) * period ≤ now ∧ now < due

section Clock

variable [ExactQuantity α] {period : α} (periodPos : 0 < period)

include periodPos

theorem firstMultiple_nextReport (now : α) :
    FirstMultiple period now (Run.nextReport period now) := by
  rcases ExactQuantity.floor_eq (now / period) with
    ⟨whole, floorEq, wholeLe, ltWhole⟩
  rw [le_div_iff₀ periodPos] at wholeLe
  rw [div_lt_iff₀ periodPos] at ltWhole
  refine ⟨whole + 1, ?_, ?_, ?_⟩
  · rw [Run.nextReport, floorEq, Quantity.ofNat_eq]
    push_cast
    rfl
  · push_cast
    rw [add_sub_cancel_right]
    exact wholeLe
  · rw [Run.nextReport, floorEq, Quantity.ofNat_eq]
    push_cast
    exact ltWhole

/-- A multiple has been passed when the first one after the beginning has. -/
theorem FirstMultiple.le_iff_crosses
    {now later due : α}
    (first : FirstMultiple period now due) :
    due ≤ later ↔ Crosses period now later := by
  rcases first with ⟨multiple, rfl, before, after⟩
  constructor
  · exact fun passed => ⟨multiple, after, passed⟩
  · rintro ⟨other, otherAfter, passed⟩
    have below : ((multiple - 1 : Int) : α) < other := by
      have less := before.trans_lt otherAfter
      push_cast
      exact lt_of_mul_lt_mul_right less periodPos.le
    have le : multiple ≤ other := by
      have := Int.cast_lt.mp below
      omega
    calc
      (multiple : α) * period ≤ other * period :=
        mul_le_mul_of_nonneg_right (Int.cast_le.mpr le) periodPos.le
      _ ≤ later := passed

omit periodPos in
/-- A multiple that has not been passed is still the first one. -/
theorem FirstMultiple.of_lt
    {now later due : α}
    (first : FirstMultiple period now due)
    (passes : now ≤ later)
    (early : later < due) :
    FirstMultiple period later due := by
  rcases first with ⟨multiple, rfl, before, _⟩
  exact ⟨multiple, rfl, before.trans passes, early⟩

end Clock

/-! ## The order of samples -/

/-- A sample comes before another one, and no process loses events between them. -/
structure Sample.Precedes (earlier later : Sample α) : Prop where
  step : earlier.step < later.step
  events :
    ∀ process, earlier.events.getD process 0 ≤ later.events.getD process 0

/-- An event of one process leaves no process fewer events. -/
theorem getD_le_getD_modify
    (events : List Nat)
    (happened process : Nat) :
    events.getD process 0 ≤
      (events.modify happened (· + 1)).getD process 0 := by
  rw [List.getD_eq_getElem?_getD, List.getD_eq_getElem?_getD,
    List.getElem?_modify]
  cases events[process]? with
  | none => exact Nat.le_refl _
  | some count =>
      show count ≤ if happened = process then count + 1 else count
      split
      · exact Nat.le_succ count
      · exact Nat.le_refl count

namespace Progress

section Timeline

variable [Quantity α]

/-- The samples stand in order, the first run at their beginning. -/
structure Timeline (first : Run α) (progress : Progress α) : Prop where
  ordered :
    progress.samples.Pairwise fun later earlier => earlier.Precedes later
  notLater :
    ∀ sample ∈ progress.samples,
      sample.step ≤ progress.run.step ∧
        ∀ process,
          sample.events.getD process 0 ≤ progress.run.events.getD process 0
  begins : progress.samples.getLast? = some first.sample

theorem timeline_start (run : Run α) (interval : Option α) :
    (start run interval).Timeline run where
  ordered := List.pairwise_singleton _ _
  notLater := by
    intro sample member
    rw [start, List.mem_singleton] at member
    subst member
    exact ⟨Nat.le_refl _, fun _ => Nat.le_refl _⟩
  begins := rfl

theorem Timeline.next
    {first : Run α}
    {progress later : Progress α}
    {config : RunConfig α}
    (timeline : progress.Timeline first)
    (stepped : progress.next config = .ok later) :
    later.Timeline first := by
  rcases next_ok stepped with ⟨⟨process, pair, moved⟩, samples⟩
  rcases Run.advance_moved moved with ⟨state, chosen, moves⟩
  have before :
      ∀ sample ∈ progress.samples, sample.Precedes later.run.sample := by
    intro sample member
    rcases timeline.notLater sample member with ⟨stepLe, eventsLe⟩
    constructor
    · show sample.step < later.run.step
      rw [moves.step_eq]
      exact Nat.lt_succ_of_le stepLe
    · intro other
      show sample.events.getD other 0 ≤ later.run.events.getD other 0
      rw [moves.events_eq]
      exact (eventsLe other).trans (getD_le_getD_modify _ _ _)
  have notLater :
      ∀ sample ∈ progress.samples,
        sample.step ≤ later.run.step ∧
          ∀ process,
            sample.events.getD process 0 ≤ later.run.events.getD process 0 :=
    fun sample member =>
      ⟨(before sample member).step.le, (before sample member).events⟩
  rcases samples with same | taken
  · rw [← same] at notLater
    exact
      { ordered := same ▸ timeline.ordered
        notLater
        begins := same ▸ timeline.begins }
  · refine { ordered := ?_, notLater := ?_, begins := ?_ }
    · rw [taken]
      exact List.pairwise_cons.mpr ⟨before, timeline.ordered⟩
    · rw [taken]
      exact
        List.forall_mem_cons.mpr
          ⟨⟨Nat.le_refl _, fun _ => Nat.le_refl _⟩, notLater⟩
    · rw [taken, List.getLast?_cons, timeline.begins]
      rfl

theorem Reaches.timeline
    {config : RunConfig α}
    {run : Run α}
    {interval : Option α}
    {progress : Progress α}
    (reached : Reaches config (start run interval) progress) :
    progress.Timeline run := by
  induction reached with
  | refl => exact timeline_start run interval
  | next earlier step induction => exact induction.next step

section Final

variable
    {first : Run α}
    {progress : Progress α}
    (timeline : progress.Timeline first)

include timeline

/-- The final samples stand in order, too. -/
theorem Timeline.pairwise_finalSamples :
    progress.finalSamples.Pairwise Sample.Precedes := by
  have ordered := timeline.ordered
  have notLater := timeline.notLater
  rw [finalSamples]
  cases shape : progress.samples with
  | nil => exact List.pairwise_singleton _ _
  | cons latest earlier =>
      rw [shape] at ordered notLater
      dsimp only
      split
      · exact List.pairwise_reverse.mpr ordered
      · next moved =>
          -- A latest sample of another step is older, and so are the others.
          rw [List.pairwise_reverse, List.pairwise_cons]
          refine ⟨?_, ordered⟩
          intro sample member
          rcases notLater sample member with ⟨stepLe, eventsLe⟩
          refine { step := ?_, events := eventsLe }
          rcases List.mem_cons.mp member with rfl | old
          · exact Nat.lt_of_le_of_ne stepLe moved
          · have before := (List.pairwise_cons.mp ordered).1 sample old
            have latestLe := (notLater latest List.mem_cons_self).1
            exact before.step.trans_le latestLe

theorem Timeline.head?_finalSamples :
    progress.finalSamples.head? = some first.sample := by
  have begins := timeline.begins
  rw [finalSamples]
  cases shape : progress.samples with
  | nil =>
      rw [shape] at begins
      cases begins
  | cons latest earlier =>
      rw [shape] at begins
      dsimp only
      split
      · rw [List.head?_reverse, begins]
      · rw [List.head?_reverse, List.getLast?_cons_cons, begins]

end Final

end Timeline

/-! ## Samples by the clock -/

/-- A sample is taken, and the clock set anew, when the report is due. -/
theorem report_clock
    [Quantity α]
    {progress : Progress α}
    {due : α}
    (reportAtEq : progress.reportAt = some due)
    (period : α) :
    due ≤ progress.run.time ∧
        (progress.report (some period)).samples =
            progress.run.sample :: progress.samples ∧
          (progress.report (some period)).reportAt =
            some (Run.nextReport period progress.run.time) ∨
      ¬ due ≤ progress.run.time ∧
        progress.report (some period) = progress := by
  simp only [report, reportAtEq]
  split
  · next passed => exact Or.inl ⟨passed, rfl, rfl⟩
  · next early => exact Or.inr ⟨early, rfl⟩

theorem next_clock
    [Quantity α]
    {progress later : Progress α}
    {config : RunConfig α}
    {period due : α}
    (intervalEq : config.reportInterval = some period)
    (reportAtEq : progress.reportAt = some due)
    (stepped : progress.next config = .ok later) :
    due ≤ later.run.time ∧
        later.samples = later.run.sample :: progress.samples ∧
          later.reportAt = some (Run.nextReport period later.run.time) ∨
      ¬ due ≤ later.run.time ∧
        later.samples = progress.samples ∧ later.reportAt = some due := by
  simp only [next, settle, intervalEq] at stepped
  split at stepped
  · cases stepped
  · split at stepped
    · cases stepped
    · cases stepped
    · cases stepped
    · next run process pair _ =>
        have movedReportAt :
            { progress.noteEvent process pair with run }.reportAt = some due :=
          reportAtEq
        have reported := report_clock movedReportAt period
        cases stepped
        rw [run_report]
        rcases reported with taken | ⟨early, same⟩
        · exact Or.inl taken
        · rw [same]
          exact Or.inr ⟨early, rfl, reportAtEq⟩

section Clock

variable [ExactQuantity α]

/-- An event of a run is sampled exactly when time has passed a multiple. -/
def SampledAt
    (period : α)
    (first : Run α)
    (samples : List (Sample α))
    (count : Nat) : Prop :=
  ∃ previous current,
    first.after count = some previous ∧
      first.after (count + 1) = some current ∧
        ((∃ sample ∈ samples, sample.step = count + 1) ↔
          Crosses period previous.time current.time)

theorem SampledAt.congr
    {period : α}
    {first : Run α}
    {samples others : List (Sample α)}
    {count : Nat}
    (sampled : SampledAt period first samples count)
    (same :
      (∃ sample ∈ others, sample.step = count + 1) ↔
        ∃ sample ∈ samples, sample.step = count + 1) :
    SampledAt period first others count := by
  rcases sampled with ⟨previous, current, before, now, sampledIff⟩
  exact ⟨previous, current, before, now, same.trans sampledIff⟩

/-- The clock has sampled a run, and the next report is at the next multiple. -/
structure Clocked
    (period : α)
    (first : Run α)
    (progress : Progress α) : Prop where
  now : first.after progress.run.step = some progress.run
  due :
    ∃ due,
      progress.reportAt = some due ∧
        FirstMultiple period progress.run.time due
  sampled :
    ∀ count < progress.run.step,
      SampledAt period first progress.samples count

theorem clocked_start
    {period : α}
    (periodPos : 0 < period)
    {run : Run α}
    (stepEq : run.step = 0)
    (timeEq : run.time = 0) :
    (start run (some period)).Clocked period run where
  now := by
    show run.after run.step = some run
    rw [stepEq]
    rfl
  due := by
    refine ⟨period, rfl, 1, ?_, ?_, ?_⟩
    · rw [Int.cast_one, one_mul]
    · show _ ≤ run.time
      rw [Int.cast_one, sub_self, zero_mul, timeEq]
    · show run.time < period
      rw [timeEq]
      exact periodPos
  sampled := by
    intro count before
    replace before : count < run.step := before
    rw [stepEq] at before
    cases before

theorem Clocked.next
    {period : α}
    (periodPos : 0 < period)
    {first : Run α}
    {progress later : Progress α}
    {config : RunConfig α}
    (intervalEq : config.reportInterval = some period)
    (timeline : progress.Timeline first)
    (clocked : progress.Clocked period first)
    (stepped : progress.next config = .ok later) :
    later.Clocked period first := by
  rcases next_ok stepped with ⟨⟨process, pair, moved⟩, _⟩
  rcases Run.advance_moved moved with ⟨state, chosen, moves⟩
  have timeLe := Run.time_le_of_advance moved
  have now := Run.after_succ_of_moved clocked.now moved
  rcases clocked.due with ⟨due, reportAtEq, firstMultiple⟩
  have dueIff : due ≤ later.run.time ↔ Crosses period _ later.run.time :=
    firstMultiple.le_iff_crosses periodPos
  have older :
      ∀ sample ∈ progress.samples, sample.step ≤ progress.run.step :=
    fun sample member => (timeline.notLater sample member).1
  have laterNow : first.after later.run.step = some later.run := by
    rw [moves.step_eq]
    exact now
  rcases next_clock intervalEq reportAtEq stepped with
    ⟨passed, samplesEq, laterDue⟩ | ⟨early, samplesEq, laterDue⟩
  · refine { now := laterNow, due := ?_, sampled := ?_ }
    · exact ⟨_, laterDue, firstMultiple_nextReport periodPos _⟩
    · intro count before
      rw [moves.step_eq] at before
      rw [samplesEq]
      rcases Nat.lt_or_eq_of_le (Nat.le_of_lt_succ before) with old | rfl
      · apply (clocked.sampled count old).congr
        have newer : later.run.sample.step ≠ count + 1 := by
          show later.run.step ≠ count + 1
          rw [moves.step_eq]
          omega
        rw [List.exists_mem_cons_iff, or_iff_right newer]
      · refine ⟨progress.run, later.run, clocked.now, now, ?_⟩
        apply iff_of_true _ (dueIff.mp passed)
        exact ⟨later.run.sample, List.mem_cons_self, moves.step_eq⟩
  · refine { now := laterNow, due := ?_, sampled := ?_ }
    · exact ⟨due, laterDue, firstMultiple.of_lt timeLe (not_le.mp early)⟩
    · intro count before
      rw [moves.step_eq] at before
      rw [samplesEq]
      rcases Nat.lt_or_eq_of_le (Nat.le_of_lt_succ before) with old | rfl
      · exact clocked.sampled count old
      · refine ⟨progress.run, later.run, clocked.now, now, ?_⟩
        apply iff_of_false _ (mt dueIff.mpr early)
        rintro ⟨sample, member, stepEq⟩
        have := older sample member
        omega

theorem Reaches.clocked
    {period : α}
    (periodPos : 0 < period)
    {config : RunConfig α}
    (intervalEq : config.reportInterval = some period)
    {run : Run α}
    (stepEq : run.step = 0)
    (timeEq : run.time = 0)
    {progress : Progress α}
    (reached : Reaches config (start run config.reportInterval) progress) :
    progress.Clocked period run := by
  induction reached with
  | refl =>
      rw [intervalEq]
      exact clocked_start periodPos stepEq timeEq
  | next earlier step induction =>
      exact induction.next periodPos intervalEq earlier.timeline step

end Clock

/-- The final state is the only one that may have been added to the samples. -/
theorem exists_mem_finalSamples_iff
    [Quantity α]
    {progress : Progress α}
    {step : Nat}
    (notFinal : progress.run.step ≠ step) :
    (∃ sample ∈ progress.finalSamples, sample.step = step) ↔
      ∃ sample ∈ progress.samples, sample.step = step := by
  have added :
      ∀ samples : List (Sample α),
        (∃ sample ∈ progress.run.sample :: samples, sample.step = step) ↔
          ∃ sample ∈ samples, sample.step = step := by
    intro samples
    have other : progress.run.sample.step ≠ step := notFinal
    rw [List.exists_mem_cons_iff, or_iff_right other]
  rw [finalSamples]
  cases progress.samples with
  | nil => exact added []
  | cons latest earlier =>
      dsimp only
      split
      · simp only [List.mem_reverse]
      · simp only [List.mem_reverse, added]

end Progress

/-! ## Results -/

/-- The samples of a result tell its run in order, from beginning to end. -/
structure SimulationResult.Sampled
    [Quantity α]
    (result : SimulationResult α)
    (scenario : Scenario α) : Prop where
  begins :
    ∃ first,
      result.samples.head? = some first ∧
        first.step = 0 ∧ first.time = Quantity.zero
  increasing :
    result.samples.Pairwise fun earlier later => earlier.step < later.step
  complete :
    ∀ sample ∈ result.samples,
      sample.events.length = scenario.processes.length ∧
        total sample.events = sample.step
  nondecreasing :
    result.samples.Pairwise fun earlier later =>
      ∀ process, earlier.events.getD process 0 ≤ later.events.getD process 0
  ends :
    ∃ last,
      result.samples.getLast? = some last ∧
        last.step = result.steps ∧
          last.time = result.time ∧
            last.events = result.eventCounts ∧
              last.surface = Surface.measure result.lattice

theorem RunConfig.interval_pos
    [ExactQuantity α]
    {config : RunConfig α}
    (faultless : config.fault? = none)
    {period : α}
    (intervalEq : config.reportInterval = some period) :
    0 < period := by
  rw [fault?] at faultless
  split at faultless
  · cases faultless
  · rw [intervalEq] at faultless
    dsimp only at faultless
    split at faultless
    · next accepted =>
        simpa [Quantity.isPositive] using (Bool.and_eq_true_iff.mp accepted).2
    · cases faultless

/--
The samples of a result tell its run in order; and with exact times and a report
interval, an event before the last one is sampled exactly when time has passed a
multiple of the interval since the event before it.
-/
theorem sampled_trajectory :
    (∀ {α : Type} [Quantity α] {scenario : Scenario α} {config : RunConfig α}
        {bound : Nat} {result : SimulationResult α},
      (solve? bound scenario config).value = some (.ok result) →
        result.Sampled scenario) ∧
      ∀ {α : Type} [ExactQuantity α] {scenario : Scenario α}
          {config : RunConfig α} {bound : Nat} {result : SimulationResult α}
          {period : α},
        (solve? bound scenario config).value = some (.ok result) →
          config.reportInterval = some period →
            ∀ count,
              count + 1 < result.steps →
                ∃ previous current,
                  (Run.initial scenario config).after count = some previous ∧
                    (Run.initial scenario config).after (count + 1) =
                        some current ∧
                      ((∃ sample ∈ result.samples, sample.step = count + 1) ↔
                        Crosses period previous.time current.time) := by
  constructor
  · intro α _ scenario config bound result solved
    rcases solve?_reached solved with ⟨_, last, reason, reached, rfl⟩
    have timeline := reached.timeline
    have sound := reached.sound
    have ordered := timeline.pairwise_finalSamples
    exact
      { begins := ⟨_, timeline.head?_finalSamples, rfl, rfl⟩
        increasing := ordered.imp Sample.Precedes.step
        complete := by
          intro sample member
          rcases sound.mem_finalSamples member with ⟨run, runReached, rfl⟩
          exact ⟨runReached.length_events, runReached.total_events⟩
        nondecreasing := ordered.imp Sample.Precedes.events
        ends := ⟨_, sound.getLast?_finalSamples, rfl, rfl, rfl, rfl⟩ }
  · intro α _ scenario config bound result period solved intervalEq count before
    rcases solve?_reached solved with ⟨faultless, last, reason, reached, rfl⟩
    replace before : count + 1 < last.run.step := before
    have periodPos :=
      RunConfig.interval_pos (config_fault?_of_runFault? faultless) intervalEq
    have clocked :=
      reached.clocked periodPos intervalEq rfl Quantity.zero_eq
    exact
      (clocked.sampled count (by omega)).congr
        (Progress.exists_mem_finalSamples_iff (Nat.ne_of_gt before))

def tickingConfig : RunConfig ℚ :=
  { limit := .steps 6, seed := 6, reportInterval := some (1 / 8) }

theorem sampled_trajectory_growingFilm :
    ∃ (scenario : Scenario Float) (result : SimulationResult Float)
      (exactScenario : Scenario ℚ) (exactResult : SimulationResult ℚ)
      (previous current : Run ℚ),
      Scenario.ofText? growingFilmText = some scenario ∧
        (solve? 3 scenario shortConfig).value = some (.ok result) ∧
          (result.steps = 2 ∧ result.Sampled scenario) ∧
            Scenario.ofText? growingFilmText = some exactScenario ∧
              (solve? 7 exactScenario tickingConfig).value =
                  some (.ok exactResult) ∧
                (exactResult.steps = 6 ∧
                  exactResult.samples.map Sample.step = [0, 3, 4, 6]) ∧
                  (Run.initial exactScenario tickingConfig).after 2 =
                      some previous ∧
                    (Run.initial exactScenario tickingConfig).after 3 =
                        some current ∧
                      Crosses (1 / 8) previous.time current.time := by
  have ahead :
      ((Scenario.ofText? growingFilmText).any fun scenario =>
        (result? 3 scenario shortConfig).any (·.steps = 2)) = true := by
    decide +kernel
  have exactAhead :
      ((Scenario.ofText? (α := ℚ) growingFilmText).any fun scenario =>
        (result? 7 scenario tickingConfig).any fun result =>
          result.steps = 6 &&
            result.samples.map Sample.step = [0, 3, 4, 6]) = true := by
    decide +kernel
  rcases (Option.any_eq_true _ _).mp ahead with ⟨scenario, found, runs⟩
  rcases (Option.any_eq_true _ _).mp runs with ⟨result, resultFound, steps⟩
  rcases (Option.any_eq_true _ _).mp exactAhead with
    ⟨exactScenario, exactFound, exactRuns⟩
  rcases (Option.any_eq_true _ _).mp exactRuns with
    ⟨exactResult, exactResultFound, checked⟩
  rcases Bool.and_eq_true_iff.mp checked with ⟨exactSteps, sampledSteps⟩
  replace exactSteps : exactResult.steps = 6 := of_decide_eq_true exactSteps
  replace sampledSteps : exactResult.samples.map Sample.step = [0, 3, 4, 6] :=
    of_decide_eq_true sampledSteps
  have solved := solve?_of_result? resultFound
  have exactSolved := solve?_of_result? exactResultFound
  have before : 2 + 1 < exactResult.steps := by
    rw [exactSteps]
    decide
  have sampled : ∃ sample ∈ exactResult.samples, sample.step = 2 + 1 := by
    apply List.mem_map.mp
    rw [sampledSteps]
    decide
  rcases sampled_trajectory.2 exactSolved rfl 2 before with
    ⟨previous, current, previousFound, currentFound, sampledIff⟩
  exact
    ⟨scenario, result, exactScenario, exactResult, previous, current, found,
      solved, ⟨of_decide_eq_true steps, sampled_trajectory.1 solved⟩, exactFound,
      exactSolved, ⟨exactSteps, sampledSteps⟩, previousFound, currentFound,
      sampledIff.mp sampled⟩

end SurfaceKinetics
