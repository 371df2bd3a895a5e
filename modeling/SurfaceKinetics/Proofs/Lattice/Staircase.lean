import Mathlib.Order.Interval.Finset.Nat
import SurfaceKinetics.Proofs.Lattice.NeighbourGraph
import SurfaceKinetics.Proofs.Lattice.Seam
import SurfaceKinetics.Proofs.Lattice.Terraces

/-!
# Stepped surfaces as staircases

A stepped surface is one period of a staircase without ends: terraces of equal
widths, each of them the same height above the one before.  On the grid its last
column meets its first one, and the thresholds across this seam make up for the
drop: on a new stepped surface a neighbour counts as occupied just when the
staircase is at least as high one column further, whichever side of the seam that
column is on.
-/

namespace SurfaceKinetics

/-- A single step around a circle goes on along it or crosses its seam. -/
theorem step_cases
    {length number other : Nat}
    (inside : number < length)
    (otherInside : other < length)
    {step : Int}
    (short : step.natAbs ≤ 1)
    (congruent : (other : Int) ≡ number + step [ZMOD length]) :
    (other : Int) = number + step ∨
      (number = 0 ∧ step = -1 ∧ other + 1 = length) ∨
        (number + 1 = length ∧ step = 1 ∧ other = 0) := by
  have otherEq : (other : Int) = (number + step) % length := by
    rw [← congruent.eq, Int.emod_eq_of_lt (by omega) (by omega)]
  rcases Int.lt_or_le (number + step) 0 with before | notBefore
  · have first : (number : Int) + step = -1 := by omega
    have last : (-1 : Int) % length = length - 1 := by
      rw [← Int.add_emod_right, Int.emod_eq_of_lt (by omega) (by omega)]
      omega
    rw [first, last] at otherEq
    omega
  · rcases Int.lt_or_le (number + step) length with within | behind
    · rw [Int.emod_eq_of_lt notBefore within] at otherEq
      exact Or.inl otherEq
    · have beyond : (number : Int) + step = length := by omega
      rw [beyond, Int.emod_self] at otherEq
      omega

/-- A site is some columns further than another one, around the grid. -/
def Grid.ColumnsFurther
    (grid : Grid)
    (site : Nat)
    (step : Int)
    (other : Nat) :
    Prop :=
  (grid.columnOf other : Int) ≡ grid.columnOf site + step [ZMOD grid.columns]

instance (grid : Grid) (site : Nat) (step : Int) (other : Nat) :
    Decidable (grid.ColumnsFurther site step other) :=
  inferInstanceAs (Decidable (_ % _ = _ % _))

namespace LatticeConfig

/-- The height in any column of the staircase that a surface is a part of. -/
def staircase
    (config : LatticeConfig)
    (steps : StepProfile)
    (column : Int) :
    Int :=
  config.initialHeight +
    column / (config.columns / steps.count : Nat) * steps.height

/--
A site is in a column, one step further at most, at which the staircase is not lower.
-/
def RisesTowards
    (config : LatticeConfig)
    (steps : StepProfile)
    (site other : Nat) :
    Prop :=
  ∃ step ∈ ([-1, 0, 1] : List Int),
    config.grid.ColumnsFurther site step other ∧
      config.staircase steps (config.grid.columnOf site) ≤
        config.staircase steps (config.grid.columnOf site + step)

instance
    (config : LatticeConfig)
    (steps : StepProfile)
    (site other : Nat) :
    Decidable (config.RisesTowards steps site other) :=
  List.decidableBEx _ _

/-- A configuration of terraces that rise, on a grid with two sides to its seam. -/
structure Climbs (config : LatticeConfig) (steps : StepProfile) : Prop where
  stepped : config.steps = some steps
  wide : 3 ≤ config.columns
  rows_pos : 1 ≤ config.rows
  count_pos : 1 ≤ steps.count
  divides : steps.count ∣ config.columns
  height_pos : 1 ≤ steps.height

namespace Climbs

variable
    {config : LatticeConfig}
    {steps : StepProfile}
    (climbs : config.Climbs steps)

include climbs

theorem fault?_eq_none : config.fault? = none := by
  refine fault?_eq_none_iff.mpr ⟨?_, ?_⟩
  · rintro (none | none)
    · exact absurd climbs.wide (by omega)
    · exact absurd climbs.rows_pos (by omega)
  · intro profile given
    cases climbs.stepped.symm.trans given
    rintro (none | uneven)
    · exact absurd climbs.count_pos (by omega)
    · exact uneven climbs.divides

/-! ## The staircase -/

theorem terraceWidth_eq :
    steps.terraceWidth config.columns = config.columns / steps.count := by
  rw [StepProfile.terraceWidth, Nat.max_eq_left climbs.count_pos]

theorem staircase_eq (column : Int) :
    config.staircase steps column =
      config.initialHeight +
        column / (steps.terraceWidth config.columns : Nat) * steps.height := by
  rw [staircase, climbs.terraceWidth_eq]

theorem width_pos : 0 < steps.terraceWidth config.columns :=
  terraceWidth_pos climbs.stepped climbs.fault?_eq_none

/-- Columns start at the heights of the staircase. -/
theorem startHeight_eq (column : Nat) :
    config.startHeight column = config.staircase steps column := by
  rw [startHeight_of_steps climbs.stepped, climbs.staircase_eq, ← Int.natCast_ediv]

theorem staircase_mono {lower upper : Int} (le : lower ≤ upper) :
    config.staircase steps lower ≤ config.staircase steps upper := by
  have widthPos : (0 : Int) < (steps.terraceWidth config.columns : Nat) :=
    Int.natCast_pos.mpr climbs.width_pos
  have nonnegative : 0 ≤ steps.height := Int.le_of_lt climbs.height_pos
  rw [climbs.staircase_eq, climbs.staircase_eq]
  exact
    Int.add_le_add_left
      (Int.mul_le_mul_of_nonneg_right (Int.ediv_le_ediv widthPos le) nonnegative)
      _

/-- Some terraces further on the staircase is as many steps higher. -/
theorem staircase_add_terraces (column terraces : Int) :
    config.staircase steps
        (column + terraces * (steps.terraceWidth config.columns : Nat)) =
      config.staircase steps column + terraces * steps.height := by
  have nonzero : ((steps.terraceWidth config.columns : Nat) : Int) ≠ 0 :=
    Int.natCast_ne_zero.mpr climbs.width_pos.ne'
  rw [climbs.staircase_eq, Int.add_mul_ediv_right _ _ nonzero, Int.add_mul,
    ← Int.add_assoc, climbs.staircase_eq]

omit climbs in
theorem staircase_zero :
    config.staircase steps 0 = config.initialHeight := by
  rw [staircase, Int.zero_ediv, Int.zero_mul, Int.add_zero]

/-- Below the first column the staircase goes down by one step. -/
theorem staircase_neg_one :
    config.staircase steps (-1) = config.initialHeight - steps.height := by
  have widthPos : (0 : Int) < (steps.terraceWidth config.columns : Nat) :=
    Int.natCast_pos.mpr climbs.width_pos
  rw [climbs.staircase_eq, Int.neg_one_ediv, Int.sign_eq_one_of_pos widthPos]
  omega

/-- Behind the last column it has gone up by all steps. -/
theorem staircase_columns :
    config.staircase steps config.columns =
      config.initialHeight + steps.count * steps.height := by
  have filled :
      (config.columns : Int) =
        0 + steps.count * (steps.terraceWidth config.columns : Nat) := by
    rw [Int.zero_add, ← Int.natCast_mul,
      count_mul_terraceWidth climbs.stepped climbs.fault?_eq_none]
  rw [filled, climbs.staircase_add_terraces, staircase_zero]

/-- The columns at the height of a terrace are as many as a terrace is wide. -/
theorem startHeight_eq_iff {column terrace : Nat} :
    config.startHeight column =
        config.initialHeight + terrace * steps.height ↔
      terrace * steps.terraceWidth config.columns ≤ column ∧
        column < (terrace + 1) * steps.terraceWidth config.columns := by
  have nonzero : steps.height ≠ 0 := Int.ne_of_gt climbs.height_pos
  have widthPos := climbs.width_pos
  rw [startHeight_of_steps climbs.stepped, Int.add_right_inj,
    Int.mul_eq_mul_right_iff nonzero, Int.natCast_inj, Nat.div_eq_iff widthPos,
    Nat.succ_mul]
  omega

/-! ## The seam -/

theorem seamHeight_eq :
    config.seamHeight =
      config.staircase steps (config.columns - 1 : Nat) -
          config.staircase steps 0 +
        1 := by
  have rises :=
    climbs.staircase_mono
      (Int.natCast_nonneg (config.columns - 1))
  rw [seamHeight, climbs.stepped]
  dsimp only
  rw [climbs.startHeight_eq, climbs.startHeight_eq, Int.natCast_zero,
    Int.natAbs_of_nonneg (Int.sub_nonneg_of_le rises)]

/--
Whether a neighbour is as high as its threshold depends on the staircase one step
further only.
-/
theorem threshold_le_iff
    {lattice : Lattice}
    (configEq : lattice.config = config)
    {site other : Nat}
    {step : Int}
    (short : step.natAbs ≤ 1)
    (further : config.grid.ColumnsFurther site step other) :
    lattice.threshold site other
          (config.startHeight (config.grid.columnOf site)) ≤
        config.startHeight (config.grid.columnOf other) ↔
      config.staircase steps (config.grid.columnOf site) ≤
        config.staircase steps (config.grid.columnOf site + step) := by
  have wide := climbs.wide
  have columnsPos : 0 < config.columns := by omega
  have columnInside (site : Nat) : config.grid.columnOf site < config.columns :=
    Nat.mod_lt site columnsPos
  rw [Lattice.threshold, configEq]
  simp only [Bool.and_eq_true, isLowerEdge_iff, isHigherEdge_iff, climbs.stepped,
    Option.isSome_some, true_and, climbs.seamHeight_eq, climbs.startHeight_eq]
  rcases step_cases (columnInside site) (columnInside other) short further
    with along | ⟨first, down, last⟩ | ⟨last, up, first⟩
  · rw [if_neg (by omega), if_neg (by omega), along]
  · -- Down across the seam the neighbour is lower, and so is the staircase.
    have descends := climbs.staircase_neg_one
    have heightPos := climbs.height_pos
    have otherEq : config.grid.columnOf other = config.columns - 1 := by omega
    rw [if_pos ⟨first, last⟩, first, otherEq, down, Int.natCast_zero,
      Int.zero_add, descends, staircase_zero]
    omega
  · -- Up across the seam the neighbour counts, and the staircase rises.
    have siteEq : config.grid.columnOf site = config.columns - 1 := by omega
    have rises :=
      climbs.staircase_mono
        (show (config.columns - 1 : Nat) ≤ ((config.columns - 1 : Nat) : Int) + 1
          by omega)
    rw [if_neg (by omega), if_pos ⟨first, last⟩, siteEq, first, up,
      Int.natCast_zero]
    omega

/-! ## Terraces and neighbours -/

/-- The columns of a terrace, one after the other. -/
theorem filter_range_eq_Ico {terrace : Nat} (within : terrace < steps.count) :
    (Finset.range config.columns).filter
        (fun column : Nat =>
          config.staircase steps column =
            config.initialHeight + terrace * steps.height) =
      Finset.Ico (terrace * steps.terraceWidth config.columns)
        ((terrace + 1) * steps.terraceWidth config.columns) := by
  have ends :
      (terrace + 1) * steps.terraceWidth config.columns ≤ config.columns :=
    calc
      (terrace + 1) * steps.terraceWidth config.columns ≤
          steps.count * steps.terraceWidth config.columns :=
        Nat.mul_le_mul_right _ within
      _ = config.columns :=
        count_mul_terraceWidth climbs.stepped climbs.fault?_eq_none
  ext column
  rw [Finset.mem_filter, Finset.mem_range, Finset.mem_Ico,
    ← climbs.startHeight_eq, climbs.startHeight_eq_iff]
  exact and_iff_right_of_imp fun terraced => terraced.2.trans_le ends

/-- The columns of the grid are on the terraces that are counted. -/
theorem exists_terrace {column : Nat} (inside : column < config.columns) :
    ∃ terrace < steps.count,
      config.staircase steps column =
        config.initialHeight + terrace * steps.height := by
  refine
    ⟨column / steps.terraceWidth config.columns,
      terrace_lt climbs.stepped climbs.fault?_eq_none inside, ?_⟩
  rw [climbs.staircase_eq, ← Int.natCast_ediv]

/-- A neighbour is one column further at most, in one way only. -/
theorem existsUnique_step
    {site other : Nat}
    (inside : site < config.grid.size)
    (member : other ∈ config.grid.neighbours site) :
    ∃! step : Int,
      step ∈ [-1, 0, 1] ∧ config.grid.ColumnsFurther site step other := by
  rcases (Grid.mem_neighbours_iff_liesAt inside).mp member with
    ⟨_, _, offset, listed, lies⟩
  have short := (LatticeKind.natAbs_le_one_of_mem_offsets listed).1
  refine ⟨offset.1, ⟨?_, lies.column⟩, ?_⟩
  · simp only [List.mem_cons, List.not_mem_nil, or_false]
    omega
  · rintro step ⟨single, congruent⟩
    have stepShort : step.natAbs ≤ 1 := by
      simp only [List.mem_cons, List.not_mem_nil, or_false] at single
      omega
    exact step_unique climbs.wide stepShort short congruent lies.column

/-- A new stepped surface is coordinated as its staircase is. -/
theorem cachedCount_eq
    {site : Nat}
    (inside : site < config.size) :
    (Lattice.ofConfig config).cachedCount site =
      ((Lattice.ofConfig config).neighbours site).countP fun other =>
        config.RisesTowards steps site other := by
  rw [Lattice.counted_ofConfig, Lattice.occupiedNeighbours,
    Lattice.site?_ofConfig config inside]
  apply List.countP_congr
  intro other member
  have otherInside : other < config.size := by
    rw [← Lattice.size_ofConfig]
    exact Lattice.lt_size_of_mem_neighbours member
  have gridMember := (Lattice.mem_neighbours_iff.mp member).2
  rw [Lattice.config_ofConfig] at gridMember
  have counts
      {step : Int}
      (single : step ∈ [-1, 0, 1])
      (further : config.grid.ColumnsFurther site step other) :=
    climbs.threshold_le_iff (Lattice.config_ofConfig config)
      (show step.natAbs ≤ 1 by
        simp only [List.mem_cons, List.not_mem_nil, or_false] at single
        omega)
      further
  rw [Lattice.site?_ofConfig config otherInside]
  dsimp only
  rw [Lattice.countsAsOccupied, Lattice.coordination_ofConfig]
  dsimp only
  rw [decide_eq_true_iff, decide_eq_true_iff]
  constructor
  · intro counted
    rcases (climbs.existsUnique_step inside gridMember).exists with
      ⟨step, single, further⟩
    exact ⟨step, single, further, (counts single further).mp counted⟩
  · rintro ⟨step, single, further, rises⟩
    exact (counts single further).mpr rises

end Climbs

end LatticeConfig

/--
A lattice is built from every configuration of rising terraces.  Its columns have
the heights of an endless staircase, whose terraces on the grid are as many as
configured and equally wide; and as many neighbours of a site are cached as occupied
as stand in a column, one step to either side at most, at which the staircase is not
lower.
-/
theorem stepped_surface_continues
    {config : LatticeConfig}
    {steps : StepProfile}
    (climbs : config.Climbs steps) :
    ∃ built,
      Lattice.build config = .ok built ∧
        0 < steps.terraceWidth config.columns ∧
          steps.count * steps.terraceWidth config.columns = config.columns ∧
            (∀ site < config.size,
              built.value.site? site =
                some
                  (Site.vacant
                    (config.staircase steps (config.grid.columnOf site))
                    config.label)) ∧
              (∀ column < config.columns,
                ∃ terrace < steps.count,
                  config.staircase steps column =
                    config.initialHeight + terrace * steps.height) ∧
                (∀ terrace < steps.count,
                  (Finset.range config.columns).filter
                      (fun column : Nat =>
                        config.staircase steps column =
                          config.initialHeight + terrace * steps.height) =
                    Finset.Ico (terrace * steps.terraceWidth config.columns)
                      ((terrace + 1) * steps.terraceWidth config.columns)) ∧
                  config.staircase steps (-1) =
                      config.initialHeight - steps.height ∧
                    config.staircase steps config.columns =
                        config.initialHeight + steps.count * steps.height ∧
                      ∀ site < config.size,
                        (∀ other ∈ built.value.neighbours site,
                          ∃! step : Int,
                            step ∈ [-1, 0, 1] ∧
                              config.grid.ColumnsFurther site step other) ∧
                          built.value.cachedCount site =
                            (built.value.neighbours site).countP fun other =>
                              config.RisesTowards steps site other := by
  rcases Lattice.exists_build climbs.fault?_eq_none with
    ⟨built, buildEq, builtEq⟩
  refine
    ⟨built, buildEq, climbs.width_pos,
      LatticeConfig.count_mul_terraceWidth climbs.stepped climbs.fault?_eq_none, ?_,
      fun column => climbs.exists_terrace,
      fun terrace => climbs.filter_range_eq_Ico,
      climbs.staircase_neg_one, climbs.staircase_columns, ?_⟩
  · intro site inside
    rw [builtEq, Lattice.site?_ofConfig config inside, climbs.startHeight_eq]
    rfl
  · intro site inside
    rw [builtEq]
    refine ⟨?_, climbs.cachedCount_eq inside⟩
    intro other member
    have gridMember := (Lattice.mem_neighbours_iff.mp member).2
    rw [Lattice.config_ofConfig] at gridMember
    exact climbs.existsUnique_step inside gridMember

/-- Three terraces of two columns each on a sheared grid, two layers apart. -/
def terracedConfig : LatticeConfig :=
  { kind := .faceCentred
    columns := 6
    rows := 2
    initialHeight := 10
    steps := some { count := 3, height := 2, depth := 0 } }

theorem stepped_surface_continues_terraced :
    terracedConfig.Climbs { count := 3, height := 2, depth := 0 } ∧
      ∃ built,
        Lattice.build terracedConfig = .ok built ∧
          built.value.site? 5 = some (Site.vacant 14 "") ∧
            built.value.neighbours 0 = [1, 5, 6, 7, 11] ∧
              built.value.cachedCount 0 = 3 ∧
                built.value.neighbours 5 = [0, 4, 11, 6, 10] ∧
                  built.value.cachedCount 5 = 5 := by
  have climbs :
      terracedConfig.Climbs { count := 3, height := 2, depth := 0 } :=
    { stepped := rfl
      wide := by decide
      rows_pos := by decide
      count_pos := by decide
      divides := by decide
      height_pos := by decide }
  rcases stepped_surface_continues climbs with
    ⟨built, buildEq, _, _, sites, _, _, _, _, coordinated⟩
  have neighboursEq (site : Nat) :
      built.value.neighbours site =
        (Lattice.ofConfig terracedConfig).neighbours site := by
    rcases Lattice.exists_build climbs.fault?_eq_none with
      ⟨other, otherEq, valueEq⟩
    cases buildEq.symm.trans otherEq
    rw [valueEq]
  have first : built.value.neighbours 0 = [1, 5, 6, 7, 11] :=
    (neighboursEq 0).trans (by decide +kernel)
  have last : built.value.neighbours 5 = [0, 4, 11, 6, 10] :=
    (neighboursEq 5).trans (by decide +kernel)
  have firstCount := (coordinated 0 (by decide)).2
  have lastCount := (coordinated 5 (by decide)).2
  rw [first] at firstCount
  rw [last] at lastCount
  exact
    ⟨climbs, built, buildEq, sites 5 (by decide), first,
      firstCount.trans (by decide), last, lastCount.trans (by decide)⟩

end SurfaceKinetics
