import SurfaceKinetics.Proofs.Lattice.Fitting
import SurfaceKinetics.Proofs.Lattice.NeighbourGraph
import SurfaceKinetics.Proofs.Lattice.Terraces

/-!
# The magnitude of terraces

The fields of a configuration fit into 32 bits with sign, but the values computed from
them need not.  Terraces climb from the first column to the last one, up or down, and
the thresholds at the seam go beyond both: by two above the first column, and by one
below the last column of a surface that descends, from which the climb is subtracted
once more.  As long as these two extremes fit, everything between them does.
-/

namespace SurfaceKinetics

/-- How far the last terrace is from the first one, up or down. -/
def StepProfile.climb (steps : StepProfile) : Nat :=
  (steps.count - 1) * steps.height.natAbs

namespace LatticeConfig

/-- The numbers of a configuration are such that an input may spell them. -/
structure Legible (config : LatticeConfig) : Prop where
  initialHeight_nonneg : 0 ≤ config.initialHeight
  initialHeight_le : config.initialHeight ≤ greatestShort
  isShort_height : ∀ steps, config.steps = some steps → IsShort steps.height

theorem Legible.isShort_initialHeight
    {config : LatticeConfig}
    (legible : config.Legible) :
    IsShort config.initialHeight :=
  ⟨Int.le_trans (by decide) legible.initialHeight_nonneg, legible.initialHeight_le⟩

/--
The values that are computed when terraces are built and their neighbours counted:
heights over the first terrace and over the ground, what the heights at the seam differ
by, and what neighbours across the seam are compared with.
-/
inductive Computes (config : LatticeConfig) : Int → Prop where
  | rise
      {steps : StepProfile}
      (stepped : config.steps = some steps)
      {column : Nat}
      (inside : column < config.columns) :
      Computes config
        ((column / steps.terraceWidth config.columns : Nat) * steps.height)
  | startHeight
      (stepped : config.steps.isSome = true)
      {column : Nat}
      (inside : column < config.columns) :
      Computes config (config.startHeight column)
  | difference
      (stepped : config.steps.isSome = true) :
      Computes config
        (config.startHeight (config.columns - 1) - config.startHeight 0)
  | distance
      (stepped : config.steps.isSome = true) :
      Computes config
        (config.startHeight (config.columns - 1) - config.startHeight 0).natAbs
  | seamHeight
      (stepped : config.steps.isSome = true) :
      Computes config config.seamHeight
  | above
      {site other : Nat}
      (bonded : other ∈ (Lattice.ofConfig config).neighbours site)
      {state : Site}
      (found : (Lattice.ofConfig config).site? site = some state)
      (seam : config.IsSeam site other) :
      Computes config (state.height + config.seamHeight)
  | below
      {site other : Nat}
      (bonded : other ∈ (Lattice.ofConfig config).neighbours site)
      {state : Site}
      (found : (Lattice.ofConfig config).site? site = some state)
      (notSeam : ¬ config.IsSeam site other)
      (reversed : config.IsSeam other site) :
      Computes config (state.height - config.seamHeight)
  | threshold
      {site other : Nat}
      (bonded : other ∈ (Lattice.ofConfig config).neighbours site)
      {state : Site}
      (found : (Lattice.ofConfig config).site? site = some state)
      (facing : config.IsSeam site other ∨ config.IsSeam other site) :
      Computes config
        ((Lattice.ofConfig config).threshold site other state.height)

/-! ## The climb -/

section Terraces

variable
    {config : LatticeConfig}
    {steps : StepProfile}
    (stepped : config.steps = some steps)
    (faultless : config.fault? = none)

include stepped faultless

/-- The climb is the difference of the heights that meet at the seam. -/
theorem natAbs_difference :
    (config.startHeight (config.columns - 1) - config.startHeight 0).natAbs =
      steps.climb := by
  rw [startHeight_first stepped, startHeight_last stepped faultless,
    add_sub_cancel_left, Int.natAbs_mul, Int.natAbs_natCast]
  rfl

theorem seamHeight_eq_climb : config.seamHeight = steps.climb + 1 := by
  rw [seamHeight, stepped]
  dsimp only
  rw [natAbs_difference stepped faultless]

/-- No terrace is further from the first one than the last. -/
theorem natAbs_rise_le {column : Nat} (inside : column < config.columns) :
    ((column / steps.terraceWidth config.columns : Nat) * steps.height).natAbs ≤
      steps.climb := by
  rw [Int.natAbs_mul, Int.natAbs_natCast]
  apply Nat.mul_le_mul_right
  exact Nat.le_sub_one_of_lt (terrace_lt stepped faultless inside)

end Terraces

/-! ## The seam -/

end LatticeConfig

namespace Grid

variable {grid : Grid}

/-- The last column is next to the first one. -/
theorem last_mem_neighbours_first
    (wide : 1 < grid.columns)
    (rowsPos : 0 < grid.rows) :
    grid.columns - 1 ∈ grid.neighbours 0 := by
  have columnsPos : 0 < grid.columns := Nat.lt_trans Nat.zero_lt_one wide
  have row : grid.columns * 1 ≤ grid.columns * grid.rows :=
    Nat.mul_le_mul_left _ rowsPos
  have inside : grid.columns - 1 < grid.columns := Nat.sub_one_lt columnsPos.ne'
  refine
    (mem_neighbours_iff_liesAt (Nat.mul_pos columnsPos rowsPos)).mpr
      ⟨?_, (Nat.sub_pos_of_lt wide).ne', (-1, 0), ?_, ?_, ?_⟩
  · rw [size]
    omega
  · cases grid.kind <;> decide
  · rw [columnOf, columnOf, Nat.mod_eq_of_lt inside, Nat.zero_mod,
      Int.modEq_iff_dvd]
    exact ⟨-1, by omega⟩
  · rw [rowOf, rowOf, Nat.div_eq_of_lt inside, Nat.zero_div]
    rfl

/-- In a single column the second site is next to the first one. -/
theorem second_mem_neighbours_first
    (single : grid.columns = 1)
    (high : 1 < grid.rows) :
    1 ∈ grid.neighbours 0 := by
  have sizeEq : grid.size = grid.rows := by rw [size, single, Nat.one_mul]
  refine
    (mem_neighbours_iff_liesAt (by omega)).mpr
      ⟨by omega, Nat.one_ne_zero, (0, 1), ?_, ?_, ?_⟩
  · cases grid.kind <;> decide
  · rw [single]
    exact Int.modEq_one
  · rw [rowOf, rowOf, single]
    rfl

end Grid

namespace LatticeConfig

/-- Wherever there are two sites or more, neighbours meet at the seam. -/
theorem exists_seam_bond
    {config : LatticeConfig}
    (stepped : config.steps.isSome = true)
    (faultless : config.fault? = none)
    (several : config.size ≠ 1) :
    ∃ lower higher,
      higher ∈ (Lattice.ofConfig config).neighbours lower ∧
        config.IsSeam lower higher := by
  have columnsPos := columns_pos faultless
  have rowsPos := rows_pos faultless
  have meeting :
      ∃ higher ∈ config.grid.neighbours 0,
        config.grid.columnOf higher + 1 = config.columns := by
    rcases Nat.lt_or_ge 1 config.columns with wide | narrow
    · refine
        ⟨config.columns - 1, Grid.last_mem_neighbours_first wide rowsPos, ?_⟩
      rw [Grid.columnOf, grid, Nat.mod_eq_of_lt (Nat.sub_one_lt columnsPos.ne')]
      exact Nat.sub_add_cancel columnsPos
    · have single : config.columns = 1 := Nat.le_antisymm narrow columnsPos
      have high : 1 < config.rows := by
        rw [size, single, Nat.one_mul] at several
        omega
      refine ⟨1, Grid.second_mem_neighbours_first single high, ?_⟩
      rw [Grid.columnOf, grid, single, Nat.mod_one]
  rcases meeting with ⟨higher, member, last⟩
  refine
    ⟨0, higher, ?_, isLowerEdge_iff.mpr ⟨stepped, Nat.zero_mod _⟩,
      isHigherEdge_iff.mpr ⟨stepped, last⟩⟩
  refine Lattice.mem_neighbours_iff.mpr ⟨?_, ?_⟩
  · rw [Lattice.size_ofConfig]
    exact Nat.mul_pos columnsPos rowsPos
  · rw [Lattice.config_ofConfig]
    exact member

/-- Sites of a new lattice are as high as their columns start. -/
theorem height_eq_startHeight
    {config : LatticeConfig}
    {site : Nat}
    {state : Site}
    (found : (Lattice.ofConfig config).site? site = some state) :
    state.height = config.startHeight (config.grid.columnOf site) := by
  have inside := Lattice.lt_size_of_site? _ found
  rw [Lattice.size_ofConfig] at inside
  rw [Lattice.site?_ofConfig config inside, Option.some.injEq] at found
  rw [← found]
  rfl

/-- The lower edge of the seam is at the ground. -/
theorem height_of_isLowerEdge
    {config : LatticeConfig}
    {steps : StepProfile}
    (stepped : config.steps = some steps)
    {site : Nat}
    {state : Site}
    (found : (Lattice.ofConfig config).site? site = some state)
    (lower : config.isLowerEdge site = true) :
    state.height = config.initialHeight := by
  rw [height_eq_startHeight found, (isLowerEdge_iff.mp lower).2,
    startHeight_first stepped]

/-- The higher edge of the seam is at the last terrace. -/
theorem height_of_isHigherEdge
    {config : LatticeConfig}
    {steps : StepProfile}
    (stepped : config.steps = some steps)
    (faultless : config.fault? = none)
    {site : Nat}
    {state : Site}
    (found : (Lattice.ofConfig config).site? site = some state)
    (higher : config.isHigherEdge site = true) :
    state.height =
      config.initialHeight + (steps.count - 1 : Nat) * steps.height := by
  have column : config.grid.columnOf site = config.columns - 1 :=
    Nat.eq_sub_of_add_eq (isHigherEdge_iff.mp higher).2
  rw [height_eq_startHeight found, column, startHeight_last stepped faultless]

/-! ## What fits -/

/-- The thresholds above the first column and below the last one fit. -/
structure FitsSeam (config : LatticeConfig) (steps : StepProfile) : Prop where
  above :
    config.size ≠ 1 →
      config.initialHeight + steps.climb + 2 ≤ greatestShort
  below :
    steps.height < 0 →
      leastShort ≤ config.initialHeight - 2 * steps.climb - 1

section Fitting

variable
    {config : LatticeConfig}
    {steps : StepProfile}
    (stepped : config.steps = some steps)
    (faultless : config.fault? = none)

include stepped faultless

/-- A terrace is above the first one or below it, as the steps go. -/
theorem rise_cases {column : Nat} (inside : column < config.columns) :
    let rise : Int :=
      (column / steps.terraceWidth config.columns : Nat) * steps.height
    (0 ≤ steps.height ∧ 0 ≤ rise ∧ rise ≤ steps.climb) ∨
      (steps.height < 0 ∧ -steps.climb ≤ rise ∧ rise ≤ 0) := by
  intro rise
  have near : rise.natAbs ≤ steps.climb := natAbs_rise_le stepped faultless inside
  rcases Int.lt_or_le steps.height 0 with down | up
  · have nonpositive : rise ≤ 0 :=
      Int.mul_nonpos_of_nonneg_of_nonpos (Int.natCast_nonneg _) (Int.le_of_lt down)
    omega
  · have nonnegative : 0 ≤ rise := Int.mul_nonneg (Int.natCast_nonneg _) up
    omega

theorem last_rise_cases :
    let rise : Int := (steps.count - 1 : Nat) * steps.height
    (0 ≤ steps.height ∧ rise = steps.climb) ∨
      (steps.height < 0 ∧ rise = -steps.climb) := by
  intro rise
  have reached : rise.natAbs = steps.climb := by
    rw [Int.natAbs_mul, Int.natAbs_natCast]
    rfl
  have last :=
    rise_cases stepped faultless
      (Nat.sub_one_lt (columns_pos faultless).ne')
  rw [terrace_last stepped faultless] at last
  omega

/-- A single column does not climb. -/
theorem climb_of_single_column (single : config.columns = 1) : steps.climb = 0 := by
  have countLe := count_le_columns stepped faultless
  rw [StepProfile.climb, Nat.sub_eq_zero_of_le (single ▸ countLe), Nat.zero_mul]

omit stepped faultless in
/-- A lattice with neighbours has two sites or more. -/
theorem size_ne_one_of_bond
    {site other : Nat}
    (bonded : other ∈ (Lattice.ofConfig config).neighbours site) :
    config.size ≠ 1 := by
  have inside := (Lattice.mem_neighbours_iff.mp bonded).1
  have otherInside := Lattice.lt_size_of_mem_neighbours bonded
  rw [Lattice.size_ofConfig] at inside otherInside
  intro single
  have same : other = site := by omega
  rw [same] at bonded
  exact Lattice.not_mem_neighbours_self _ _ bonded

/-- Where the thresholds fit, so do the ends of the terraces and the seam height. -/
theorem FitsSeam.ends
    (legible : config.Legible)
    (fits : config.FitsSeam steps) :
    config.initialHeight + steps.climb ≤ greatestShort ∧
      steps.climb + 1 ≤ greatestShort := by
  have initialHeightNonneg := legible.initialHeight_nonneg
  by_cases single : config.size = 1
  · have level :=
      climb_of_single_column stepped faultless
        (Nat.eq_one_of_mul_eq_one_right single)
    have initialHeightLe := legible.initialHeight_le
    rw [level]
    exact ⟨by omega, by decide⟩
  · have above := fits.above single
    omega

theorem isShort_of_computes
    (legible : config.Legible)
    (fits : config.FitsSeam steps)
    {value : Int}
    (computed : config.Computes value) :
    IsShort value := by
  have initialHeightNonneg := legible.initialHeight_nonneg
  have below := fits.below
  have ends := fits.ends stepped faultless legible
  have last := last_rise_cases stepped faultless
  have seamEq := seamHeight_eq_climb stepped faultless
  have leastEq : leastShort = -2147483648 := rfl
  have greatestEq : greatestShort = 2147483647 := rfl
  rw [isShort_iff]
  cases computed with
  | @rise other otherStepped column inside =>
      cases stepped.symm.trans otherStepped
      have rise := rise_cases stepped faultless inside
      omega
  | startHeight _ inside =>
      have rise := rise_cases stepped faultless inside
      rw [startHeight_of_steps stepped]
      omega
  | difference _ =>
      rw [startHeight_first stepped, startHeight_last stepped faultless]
      omega
  | distance _ =>
      rw [natAbs_difference stepped faultless]
      omega
  | seamHeight _ => omega
  | above bonded found seam =>
      have above := fits.above (size_ne_one_of_bond bonded)
      rw [height_of_isLowerEdge stepped found seam.1]
      omega
  | below bonded found notSeam reversed =>
      rw [height_of_isHigherEdge stepped faultless found reversed.2]
      omega
  | @threshold site other bonded state found facing =>
      have configEq := Lattice.config_ofConfig config
      by_cases seam : config.IsSeam site other
      · have above := fits.above (size_ne_one_of_bond bonded)
        rw [Lattice.threshold_of_isSeam (by rwa [configEq]), configEq,
          height_of_isLowerEdge stepped found seam.1]
        omega
      · have reversed := facing.resolve_left seam
        rw [Lattice.threshold_of_reversed (by rwa [configEq])
            (by rwa [configEq]), configEq,
          height_of_isHigherEdge stepped faultless found reversed.2]
        omega

/-- The thresholds at the seam are computed; when all that is computed fits, they do. -/
theorem FitsSeam.of_forall_computes
    (legible : config.Legible)
    (short : ∀ value, config.Computes value → IsShort value) :
    config.FitsSeam steps := by
  have isSome : config.steps.isSome = true := by rw [stepped, Option.isSome_some]
  have seamEq := seamHeight_eq_climb stepped faultless
  have configEq := Lattice.config_ofConfig config
  have last := last_rise_cases stepped faultless
  constructor
  · intro several
    rcases exists_seam_bond isSome faultless several with
      ⟨lower, higher, bonded, seam⟩
    rcases Lattice.exists_state (Lattice.mem_neighbours_iff.mp bonded).1 with
      ⟨state, found⟩
    have fitting := short _ (.threshold bonded found (Or.inl seam))
    rw [Lattice.threshold_of_isSeam (by rwa [configEq]), configEq,
      height_of_isLowerEdge stepped found seam.1] at fitting
    have atMost := fitting.2
    omega
  · intro descends
    rcases Nat.lt_or_ge 1 config.columns with wide | narrow
    · have several : config.size ≠ 1 := by
        intro single
        exact wide.ne' (Nat.eq_one_of_mul_eq_one_right single)
      rcases exists_seam_bond isSome faultless several with
        ⟨lower, higher, bonded, seam⟩
      have back := Lattice.mem_neighbours_comm.mp bonded
      rcases Lattice.exists_state (Lattice.mem_neighbours_iff.mp back).1 with
        ⟨state, found⟩
      have fitting := short _ (.below back found (seam.not_symm wide) seam)
      rw [height_of_isHigherEdge stepped faultless found seam.2] at fitting
      have atLeast := fitting.1
      omega
    · -- The first column is the last one, and the threshold below it is not computed.
      have single : config.columns = 1 :=
        Nat.le_antisymm narrow (columns_pos faultless)
      have initialHeightNonneg := legible.initialHeight_nonneg
      have leastEq : leastShort = -2147483648 := rfl
      rw [climb_of_single_column stepped faultless single]
      omega

end Fitting

/-- Without terraces nothing of the kind is computed. -/
theorem not_computes_of_flat
    {config : LatticeConfig}
    (flat : config.steps = none)
    (value : Int) :
    ¬ config.Computes value := by
  have notStepped : ¬ config.steps.isSome = true := by
    rw [flat]
    exact Bool.false_ne_true
  have noSeam {lower higher : Nat} : ¬ config.IsSeam lower higher :=
    fun seam => notStepped (isLowerEdge_iff.mp seam.1).1
  intro computed
  cases computed with
  | rise stepped _ => cases flat.symm.trans stepped
  | startHeight stepped _ => exact notStepped stepped
  | difference stepped => exact notStepped stepped
  | distance stepped => exact notStepped stepped
  | seamHeight stepped => exact notStepped stepped
  | above _ _ seam => exact noSeam seam
  | below _ _ _ reversed => exact noSeam reversed
  | threshold _ _ facing => exact facing.elim noSeam noSeam

/-- All that is computed for new terraces fits as far as the thresholds at the seam. -/
theorem forall_computes_isShort_iff
    {config : LatticeConfig}
    (legible : config.Legible)
    (faultless : config.fault? = none) :
    (∀ value, config.Computes value → IsShort value) ↔
      ∀ steps, config.steps = some steps → config.FitsSeam steps := by
  constructor
  · intro short steps stepped
    exact FitsSeam.of_forall_computes stepped faultless legible short
  · intro fits value computed
    cases stepped : config.steps with
    | none => exact absurd computed (not_computes_of_flat stepped value)
    | some steps =>
        exact
          isShort_of_computes stepped faultless legible (fits steps stepped)
            computed

/-! ## New lattices -/

/-- The height of a column fits, and so does its height over the first terrace. -/
def StartFits (config : LatticeConfig) (column : Nat) : Prop :=
  ∀ steps,
    config.steps = some steps →
      IsShort ((column / steps.terraceWidth config.columns : Nat) * steps.height) ∧
        IsShort (config.startHeight column)

/-- The numbers that the seam height of terraces is computed from fit. -/
def SeamHeightFits (config : LatticeConfig) : Prop :=
  config.StartFits 0 ∧
    config.StartFits (config.columns - 1) ∧
      IsShort (config.startHeight (config.columns - 1) - config.startHeight 0) ∧
        IsShort
            (config.startHeight (config.columns - 1) -
                config.startHeight 0).natAbs ∧
          IsShort config.seamHeight

section New

variable {config : LatticeConfig}

theorem checks_startHeight (column : Nat) :
    Checks (config.startHeight? column) (config.StartFits column)
      (config.startHeight column) := by
  rw [StartFits, startHeight?, startHeight]
  cases config.steps with
  | none =>
      refine (Checks.some _).congr (iff_of_true trivial fun _ stepped => ?_)
      cases stepped
  | some steps =>
      simp only [Option.some.injEq, forall_eq']
      exact Checks.bind (.short _) fun _ => .short _

theorem checks_seamHeight :
    Checks config.seamHeight? (config.steps.isSome = true → config.SeamHeightFits)
      config.seamHeight := by
  rw [SeamHeightFits, seamHeight?, seamHeight]
  cases config.steps with
  | none =>
      refine (Checks.some 0).congr (iff_of_true trivial fun stepped => ?_)
      cases stepped
  | some steps =>
      refine Checks.congr ?_ (forall_prop_of_true rfl).symm
      exact
        (checks_startHeight 0).bind fun _ =>
          (checks_startHeight (config.columns - 1)).bind fun _ =>
            (Checks.short _).bind fun _ => Checks.short_add_one _

/-- The seams of a new lattice are those of its configuration. -/
theorem countFits_ofConfig_iff {site : Nat} :
    (Lattice.uncounted config).CountFits site ↔
      ∀ state,
        (Lattice.ofConfig config).site? site = some state →
          ∀ other ∈ (Lattice.ofConfig config).neighbours site,
            config.ThresholdFits site other state.height := by
  have recounted :=
    (Lattice.uncounted config).countFits_refreshMany
      (List.range (Lattice.uncounted config).size) site
  rw [← recounted]
  change (Lattice.ofConfig config).CountFits site ↔ _
  rw [Lattice.CountFits, Lattice.coordination_ofConfig, Lattice.config_ofConfig,
    forall_prop_of_true rfl]

/-- A new lattice is computed in three parts: columns, seam and counts. -/
theorem checks_ofConfig_parts (config : LatticeConfig) :
    Checks (Lattice.ofConfig? config)
      ((∀ column ∈ List.range config.columns, config.StartFits column) ∧
        (config.steps.isSome = true → config.SeamHeightFits) ∧
          ∀ site, (Lattice.uncounted config).CountFits site)
      (Lattice.ofConfig config) :=
  (Checks.mapM fun column _ => checks_startHeight column).bind fun _ =>
    checks_seamHeight.bind fun _ => Lattice.checks_refreshAll _

/-- A new lattice is computed exactly when all that is computed for it fits. -/
theorem checks_ofConfig (faultless : config.fault? = none) :
    Checks (Lattice.ofConfig? config)
      (∀ value, config.Computes value → IsShort value)
      (Lattice.ofConfig config) := by
  refine (checks_ofConfig_parts config).congr ⟨?_, ?_⟩
  · rintro ⟨starts, seam, counts⟩ value computed
    cases computed with
    | rise stepped inside => exact (starts _ (List.mem_range.mpr inside) _ stepped).1
    | startHeight stepped inside =>
        rcases Option.isSome_iff_exists.mp stepped with ⟨steps, stepsEq⟩
        exact (starts _ (List.mem_range.mpr inside) steps stepsEq).2
    | difference stepped => exact (seam stepped).2.2.1
    | distance stepped => exact (seam stepped).2.2.2.1
    | seamHeight stepped => exact (seam stepped).2.2.2.2
    | above bonded found isSeam =>
        exact ((countFits_ofConfig_iff.mp (counts _) _ found _ bonded).above isSeam).1
    | below bonded found notSeam reversed =>
        exact
          ((countFits_ofConfig_iff.mp (counts _) _ found _ bonded).below notSeam
            reversed).1
    | @threshold site other bonded state found facing =>
        have fits := countFits_ofConfig_iff.mp (counts _) _ found _ bonded
        have configEq := Lattice.config_ofConfig config
        by_cases isSeam : config.IsSeam site other
        · rw [Lattice.threshold_of_isSeam (by rwa [configEq]), configEq]
          exact (fits.above isSeam).2
        · have reversed := facing.resolve_left isSeam
          rw [Lattice.threshold_of_reversed (by rwa [configEq]) (by rwa [configEq]),
            configEq]
          exact (fits.below isSeam reversed).2
  · intro short
    have starts {column : Nat} (inside : column < config.columns) :
        config.StartFits column := by
      intro steps stepped
      have isSome : config.steps.isSome = true := by rw [stepped, Option.isSome_some]
      exact ⟨short _ (.rise stepped inside), short _ (.startHeight isSome inside)⟩
    refine ⟨fun column member => starts (List.mem_range.mp member), ?_, ?_⟩
    · intro stepped
      have positive := columns_pos faultless
      exact
        ⟨starts positive, starts (Nat.sub_one_lt positive.ne'),
          short _ (.difference stepped), short _ (.distance stepped),
          short _ (.seamHeight stepped)⟩
    · intro site
      rw [countFits_ofConfig_iff]
      intro state found other bonded
      have configEq := Lattice.config_ofConfig config
      constructor
      · intro isSeam
        have threshold := short _ (.threshold bonded found (Or.inl isSeam))
        rw [Lattice.threshold_of_isSeam (by rwa [configEq]), configEq] at threshold
        exact ⟨short _ (.above bonded found isSeam), threshold⟩
      · intro notSeam reversed
        have threshold := short _ (.threshold bonded found (Or.inr reversed))
        rw [Lattice.threshold_of_reversed (by rwa [configEq]) (by rwa [configEq]),
          configEq] at threshold
        exact ⟨short _ (.below bonded found notSeam reversed), threshold⟩

/-- A lattice that is built in 32 bits fits. -/
theorem fits_of_ofConfig?
    (faultless : config.fault? = none)
    (short : IsShort config.initialHeight)
    {lattice : Lattice}
    (computed : Lattice.ofConfig? config = some lattice) :
    lattice.Fits := by
  rcases (checks_ofConfig faultless).eq_some_iff.mp computed with ⟨all, rfl⟩
  rw [Lattice.fits_iff_everywhere]
  intro site state found
  rw [Site.Fits, height_eq_startHeight found]
  cases stepped : config.steps with
  | none =>
      rw [startHeight, stepped]
      exact short
  | some steps =>
      have isSome : config.steps.isSome = true := by rw [stepped, Option.isSome_some]
      exact all _ (.startHeight isSome (Nat.mod_lt site (columns_pos faultless)))

/-- Where there is no fault, building in 32 bits is computing the new lattice so. -/
theorem exists_build?
    (faultless : config.fault? = none) :
    ∃ built,
      Lattice.build? config = .ok built ∧ built.value? = Lattice.ofConfig? config := by
  refine ⟨_, by rw [Lattice.build?, faultless]; rfl, ?_⟩
  simp only [Checked.value?_bind, Checked.value?_lift, Checked.value?_ofOption,
    Checked.value?_pure, Option.bind_some, Option.bind_fun_some]

end New

end LatticeConfig

end SurfaceKinetics
