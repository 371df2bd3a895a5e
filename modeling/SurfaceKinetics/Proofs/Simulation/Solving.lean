import SurfaceKinetics.Proofs.Simulation.Step

/-!
# From steps to results

The loop of a run makes steps until one ends the run.  So whatever every step
keeps holds at the end, every sample shows a run that was reached, and the last
sample of a result shows the run at its end.
-/

namespace SurfaceKinetics

variable {α : Type} [Quantity α]

namespace Progress

/-! ## One step -/

@[simp]
theorem run_report (progress : Progress α) (interval : Option α) :
    (progress.report interval).run = progress.run := by
  unfold report
  split
  · split <;> rfl
  · rfl

theorem samples_report (progress : Progress α) (interval : Option α) :
    (progress.report interval).samples = progress.samples ∨
      (progress.report interval).samples =
        progress.run.sample :: progress.samples := by
  unfold report
  split
  · split
    · exact Or.inr rfl
    · exact Or.inl rfl
  · exact Or.inl rfl

/-- A step that does not end the run moves it and may take a sample. -/
theorem next_ok
    {progress later : Progress α}
    {config : RunConfig α}
    (stepped : progress.next config = .ok later) :
    (∃ process pair, progress.run.advance = .moved later.run process pair) ∧
      (later.samples = progress.samples ∨
        later.samples = later.run.sample :: progress.samples) := by
  simp only [next, settle] at stepped
  split at stepped
  · cases stepped
  · split at stepped
    · cases stepped
    · cases stepped
    · cases stepped
    · next run process pair moved =>
        cases stepped
        constructor
        · rw [run_report]
          exact ⟨process, pair, moved⟩
        · rw [run_report]
          exact
            samples_report { progress.noteEvent process pair with run }
              config.reportInterval

/-- A step that stops the run leaves it as it is. -/
theorem next_stopped
    {progress final : Progress α}
    {config : RunConfig α}
    {reason : StopReason}
    (stopped : progress.next config = .error (.stopped final reason)) :
    final.run = progress.run ∧ final.samples = progress.samples := by
  simp only [next, settle] at stopped
  split at stopped
  · cases stopped
    exact ⟨rfl, rfl⟩
  · split at stopped
    · cases stopped
      exact ⟨rfl, rfl⟩
    · cases stopped
    · cases stopped
    · cases stopped

/-- A step that fails shows why its run cannot advance. -/
theorem next_failed
    {progress final : Progress α}
    {config : RunConfig α}
    {error : SimulationError α}
    (failed : progress.next config = .error (.failed final error)) :
    ∃ cause, progress.run.advance = .failed error cause := by
  simp only [next, settle] at failed
  split at failed
  · cases failed
  · split at failed
    · cases failed
    · next fault advanced =>
        cases failed
        exact ⟨none, advanced⟩
    · next fault process pair advanced =>
        cases failed
        exact ⟨some (process, pair), advanced⟩
    · cases failed

/-! ## The loop -/

/-- A progress is reached from another by steps that do not end the run. -/
inductive Reaches (config : RunConfig α) (first : Progress α) :
    Progress α → Prop where
  | refl : Reaches config first first
  | next
      {progress later : Progress α}
      (earlier : Reaches config first progress)
      (step : progress.next config = .ok later) :
      Reaches config first later

theorem Reaches.trans
    {config : RunConfig α}
    {first second third : Progress α}
    (begins : Reaches config first second)
    (continues : Reaches config second third) :
    Reaches config first third := by
  induction continues with
  | refl => exact begins
  | next earlier step induction => exact .next induction step

/-- The loop ends with a step that ends the run. -/
theorem loop_eq_some
    {config : RunConfig α}
    {bound : Nat}
    {first : Progress α}
    {runEnd : RunEnd α}
    (ended : loop config bound first = some runEnd) :
    ∃ last, Reaches config first last ∧ last.next config = .error runEnd := by
  induction bound generalizing first with
  | zero => cases ended
  | succ bound induction =>
      rw [loop] at ended
      split at ended
      · next stopped =>
          cases ended
          exact ⟨first, .refl, stopped⟩
      · next later stepped =>
          rcases induction ended with ⟨last, reached, stopped⟩
          exact ⟨last, (Reaches.refl.next stepped).trans reached, stopped⟩

/-! ## Samples -/

/-- The samples of a progress show runs reached from the first one. -/
structure Sound (first : Run α) (progress : Progress α) : Prop where
  reached : first.Reaches progress.run
  sampled :
    ∀ sample ∈ progress.samples,
      ∃ run, first.Reaches run ∧ sample = run.sample
  latest :
    ∃ latest earlier,
      progress.samples = latest :: earlier ∧
        latest.step ≤ progress.run.step ∧
          (latest.step = progress.run.step → latest = progress.run.sample)

theorem sound_start (run : Run α) (interval : Option α) :
    (start run interval).Sound run where
  reached := .refl
  sampled := by
    intro sample member
    rw [start, List.mem_singleton] at member
    exact ⟨run, .refl, member⟩
  latest := ⟨run.sample, [], rfl, Nat.le_refl _, fun _ => rfl⟩

theorem Sound.next
    {first : Run α}
    {progress later : Progress α}
    {config : RunConfig α}
    (sound : progress.Sound first)
    (stepped : progress.next config = .ok later) :
    later.Sound first := by
  rcases next_ok stepped with ⟨⟨process, pair, moved⟩, samples⟩
  rcases Run.advance_moved moved with ⟨state, chosen, moves⟩
  rcases sound.latest with ⟨latest, earlier, shape, latestLe, _⟩
  have reached : first.Reaches later.run := sound.reached.moved moved
  have stepEq := moves.step_eq
  rcases samples with same | taken
  · exact
      { reached
        sampled := same ▸ sound.sampled
        latest :=
          ⟨latest, earlier, same ▸ shape, by omega, fun equal => by omega⟩ }
  · refine
      { reached
        sampled := ?_
        latest := ⟨_, _, taken, Nat.le_refl _, fun _ => rfl⟩ }
    intro sample member
    rw [taken] at member
    rcases List.mem_cons.mp member with rfl | before
    · exact ⟨later.run, reached, rfl⟩
    · exact sound.sampled sample before

theorem Reaches.sound
    {config : RunConfig α}
    {run : Run α}
    {interval : Option α}
    {progress : Progress α}
    (reached : Reaches config (start run interval) progress) :
    progress.Sound run := by
  induction reached with
  | refl => exact sound_start run interval
  | next earlier step induction => exact induction.next step

/-- Every final sample shows a reached run. -/
theorem Sound.mem_finalSamples
    {first : Run α}
    {progress : Progress α}
    (sound : progress.Sound first)
    {sample : Sample α}
    (member : sample ∈ progress.finalSamples) :
    ∃ run, first.Reaches run ∧ sample = run.sample := by
  rcases sound.latest with ⟨latest, earlier, shape, _, _⟩
  have sampled := sound.sampled
  simp only [finalSamples, shape] at member sampled
  split at member
  · exact sampled sample (List.mem_reverse.mp member)
  · rcases List.mem_cons.mp (List.mem_reverse.mp member) with rfl | before
    · exact ⟨progress.run, sound.reached, rfl⟩
    · exact sampled sample before

/-- The last of the final samples shows the run at its end. -/
theorem Sound.getLast?_finalSamples
    {first : Run α}
    {progress : Progress α}
    (sound : progress.Sound first) :
    progress.finalSamples.getLast? = some progress.run.sample := by
  rcases sound.latest with ⟨latest, earlier, shape, _, current⟩
  simp only [finalSamples, shape]
  split
  · next equal =>
      rw [List.getLast?_reverse, List.head?_cons, current equal]
  · rw [List.getLast?_reverse, List.head?_cons]

end Progress

/-! ## Results -/

theorem fault?_of_runFault?
    {scenario : Scenario α}
    {config : RunConfig α}
    (faultless : runFault? scenario config = none) :
    scenario.fault? = none := by
  rw [runFault?] at faultless
  split at faultless
  · cases faultless
  · exact faultless

theorem config_fault?_of_runFault?
    {scenario : Scenario α}
    {config : RunConfig α}
    (faultless : runFault? scenario config = none) :
    config.fault? = none := by
  rw [runFault?] at faultless
  split at faultless
  · cases faultless
  · next configFaultless => exact configFaultless

theorem RunConfig.limit_fault?_of_fault?
    {config : RunConfig α}
    (faultless : config.fault? = none) :
    config.limit.fault? = none := by
  rw [fault?] at faultless
  split at faultless
  · cases faultless
  · next limitFaultless => exact limitFaultless

/-- The run of a scenario under a configuration before its first event. -/
def Run.initial (scenario : Scenario α) (config : RunConfig α) : Run α :=
  Run.start scenario (RandomSource.ofSeed config.seed)

/-- A result shows the progress that the loop has made when the run stops. -/
theorem solve?_reached
    {bound : Nat}
    {scenario : Scenario α}
    {config : RunConfig α}
    {result : SimulationResult α}
    (solved : (solve? bound scenario config).value = some (.ok result)) :
    runFault? scenario config = none ∧
      ∃ last reason,
        Progress.Reaches config
            (Progress.start (Run.initial scenario config) config.reportInterval)
            last ∧
          result = Run.resultOf scenario config last reason := by
  rw [solve?] at solved
  split at solved
  · cases solved
  · next faultless =>
      refine ⟨faultless, ?_⟩
      simp only [Noted.value_bind] at solved
      unfold concluded at solved
      split at solved
      · cases solved
      · cases solved
      · next final reason ended =>
          cases solved
          rcases Progress.loop_eq_some ended with ⟨last, reached, stopped⟩
          rcases Progress.next_stopped stopped with ⟨runEq, samplesEq⟩
          refine ⟨last, reason, reached, ?_⟩
          rw [Run.resultOf, Run.resultOf, Progress.finalSamples,
            Progress.finalSamples, runEq, samplesEq]

/-- A result shows a run that was reached, and its samples are sound. -/
theorem solve?_ok
    {bound : Nat}
    {scenario : Scenario α}
    {config : RunConfig α}
    {result : SimulationResult α}
    (solved : (solve? bound scenario config).value = some (.ok result)) :
    runFault? scenario config = none ∧
      ∃ final reason,
        final.Sound (Run.initial scenario config) ∧
          result = Run.resultOf scenario config final reason := by
  rcases solve?_reached solved with ⟨faultless, last, reason, reached, shown⟩
  exact ⟨faultless, last, reason, reached.sound, shown⟩

/-- A run fails for a fault of its set-up, or because a reached run breaks. -/
theorem solve?_error
    {bound : Nat}
    {scenario : Scenario α}
    {config : RunConfig α}
    {error : SimulationError α}
    (solved : (solve? bound scenario config).value = some (.error error)) :
    runFault? scenario config = some error ∨
      ∃ run, (Run.initial scenario config).Reaches run ∧ run.Breaks error := by
  rw [solve?] at solved
  split at solved
  · next fault =>
      cases solved
      exact Or.inl fault
  · simp only [Noted.value_bind] at solved
    unfold concluded at solved
    split at solved
    · cases solved
    · next final error ended =>
        cases solved
        rcases Progress.loop_eq_some ended with ⟨last, reached, failed⟩
        rcases Progress.next_failed failed with ⟨cause, broken⟩
        exact
          Or.inr ⟨last.run, reached.sound.reached, Run.advance_failed broken⟩
    · cases solved

/-- The result of a run, if it has one. -/
def result?
    (bound : Nat)
    (scenario : Scenario α)
    (config : RunConfig α) :
    Option (SimulationResult α) :=
  (solve? bound scenario config).value.bind Except.toOption

theorem solve?_of_result?
    {bound : Nat}
    {scenario : Scenario α}
    {config : RunConfig α}
    {result : SimulationResult α}
    (found : result? bound scenario config = some result) :
    (solve? bound scenario config).value = some (.ok result) := by
  rcases Option.bind_eq_some_iff.mp found with ⟨outcome, solved, extracted⟩
  cases outcome with
  | error error => cases extracted
  | ok value =>
      cases extracted
      exact solved

end SurfaceKinetics
