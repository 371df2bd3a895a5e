import SurfaceKinetics.Proofs.Lattice.Fitting

/-!
# Sight in 32 bits

Whether a site sees a neighbour is computed in 32 bits.  Away from the seam two heights
are compared as they are.  At the seam the threshold may be out of range: the lower edge
has no answer when its column is too high for the allowance, and the higher edge has
none when its column is too low.  Wherever there is an answer it is the exact one.
-/

namespace SurfaceKinetics

namespace Lattice

variable
    {lattice : Lattice}
    (byHeight : lattice.coordination = .height)
    {site other : Nat}
    {state otherState : Site}
    (found : lattice.site? site = some state)
    (otherFound : lattice.site? other = some otherState)

include byHeight found otherFound

theorem checks_sees :
    Checks (lattice.sees? site other)
      (lattice.config.ThresholdFits site other state.height)
      (lattice.sees site other) := by
  have counted := lattice.checks_countsAsOccupied site other state otherState
  rw [forall_prop_of_true byHeight] at counted
  rw [sees?, sees, found, otherFound]
  exact counted

/-- Away from the seam there is nothing that could be out of range. -/
theorem sees?_of_not_isSeam
    (notSeam : ¬ lattice.config.IsSeam site other)
    (notReversed : ¬ lattice.config.IsSeam other site) :
    lattice.sees? site other = some (decide (state.height ≤ otherState.height)) := by
  have fits : lattice.config.ThresholdFits site other state.height :=
    ⟨fun seam => absurd seam notSeam, fun _ reversed => absurd reversed notReversed⟩
  rw [(checks_sees byHeight found otherFound).eq_some fits, Option.some.injEq,
    Bool.eq_iff_iff, sees_iff_of_not_isSeam byHeight found otherFound notSeam notReversed,
    decide_eq_true_iff]

/-- The lower edge sees the higher one as far as there are numbers above it. -/
theorem checks_sees_of_isSeam
    (fits : lattice.Fits)
    (seam : lattice.config.IsSeam site other) :
    Checks (lattice.sees? site other)
      (state.height + lattice.config.seamHeight + 1 ≤ greatestShort)
      (decide (state.height + lattice.config.seamHeight < otherState.height)) := by
  have short : IsShort state.height := fits_iff_everywhere.mp fits site state found
  have seesEq :
      lattice.sees site other =
        decide (state.height + lattice.config.seamHeight < otherState.height) := by
    rw [Bool.eq_iff_iff, sees_iff_of_isSeam byHeight found otherFound seam,
      decide_eq_true_iff]
  rw [← seesEq]
  refine (checks_sees byHeight found otherFound).congr ?_
  rw [LatticeConfig.thresholdFits_iff short]
  simp only [seam, forall_const, not_true_eq_false, false_implies, and_true]

/-- The higher edge sees the lower one as far as there are numbers below it. -/
theorem checks_sees_of_reversed
    (fits : lattice.Fits)
    (notSeam : ¬ lattice.config.IsSeam site other)
    (reversed : lattice.config.IsSeam other site) :
    Checks (lattice.sees? site other)
      (leastShort ≤ state.height - lattice.config.seamHeight)
      (decide (state.height < otherState.height + lattice.config.seamHeight)) := by
  have short : IsShort state.height := fits_iff_everywhere.mp fits site state found
  have seesEq :
      lattice.sees site other =
        decide (state.height < otherState.height + lattice.config.seamHeight) := by
    rw [Bool.eq_iff_iff,
      sees_iff_of_reversed byHeight found otherFound notSeam reversed,
      decide_eq_true_iff]
  rw [← seesEq]
  refine (checks_sees byHeight found otherFound).congr ?_
  rw [LatticeConfig.thresholdFits_iff short]
  simp only [notSeam, reversed, forall_const, not_false_eq_true, false_implies,
    true_and]

end Lattice

/--
What two neighbouring sites see of each other, their columns having heights that fit:
away from the seam of a stepped surface, across it, and both ways together.
-/
structure Lattice.SeesBond
    (lattice : Lattice)
    (site other : Nat)
    (state otherState : Site) : Prop where
  away :
    ¬ lattice.config.IsSeam site other →
      ¬ lattice.config.IsSeam other site →
        lattice.sees? site other =
            some (decide (state.height ≤ otherState.height)) ∧
          lattice.sees? other site =
            some (decide (otherState.height ≤ state.height))
  upward :
    lattice.config.IsSeam site other →
      Checks (lattice.sees? site other)
        (state.height + lattice.config.seamHeight + 1 ≤ greatestShort)
        (decide (state.height + lattice.config.seamHeight < otherState.height))
  downward :
    lattice.config.IsSeam site other →
      Checks (lattice.sees? other site)
        (leastShort ≤ otherState.height - lattice.config.seamHeight)
        (decide (otherState.height < state.height + lattice.config.seamHeight))
  seen :
    ∀ {forth back : Bool},
      lattice.sees? site other = some forth →
        lattice.sees? other site = some back →
          (forth = true ∨ back = true ↔
            ¬ (lattice.config.IsSeam site other ∧
                otherState.height = state.height + lattice.config.seamHeight) ∧
              ¬ (lattice.config.IsSeam other site ∧
                state.height = otherState.height + lattice.config.seamHeight))

/--
On a surface of two columns or more, let two sites be neighbours and count by
height.  Away from the seam of a stepped surface each sees the other exactly when
this is not lower.  At the seam the lower edge sees the higher one when it stands
above it by more than the seam height, and the higher edge sees the lower one when
it stands above it by less, provided that the thresholds for it fit.  So one end of the
bond is seen from the other, unless the sites are the edges of the seam and the seam
height is just what the higher edge stands above the lower one.
-/
theorem bond_seen_unless_level_at_seam
    {lattice : Lattice}
    (byHeight : lattice.coordination = .height)
    (wide : 2 ≤ lattice.config.columns)
    (fits : lattice.Fits)
    {site other : Nat}
    (bonded : other ∈ lattice.neighbours site) :
    ∃ state otherState,
      lattice.site? site = some state ∧
        lattice.site? other = some otherState ∧
          lattice.SeesBond site other state otherState := by
  rcases Lattice.exists_state (Lattice.mem_neighbours_iff.mp bonded).1 with
    ⟨state, found⟩
  rcases Lattice.exists_state (Lattice.lt_size_of_mem_neighbours bonded) with
    ⟨otherState, otherFound⟩
  refine ⟨state, otherState, found, otherFound, ?_⟩
  constructor
  case away =>
    intro notSeam notReversed
    exact
      ⟨Lattice.sees?_of_not_isSeam byHeight found otherFound notSeam notReversed,
        Lattice.sees?_of_not_isSeam byHeight otherFound found notReversed notSeam⟩
  case upward =>
    exact Lattice.checks_sees_of_isSeam byHeight found otherFound fits
  case downward =>
    intro seam
    exact
      Lattice.checks_sees_of_reversed byHeight otherFound found fits
        (seam.not_symm wide) seam
  case seen =>
    intro forth back forthEq backEq
    rw [← ((Lattice.checks_sees byHeight found otherFound).eq_some_iff.mp forthEq).2,
      ← ((Lattice.checks_sees byHeight otherFound found).eq_some_iff.mp backEq).2]
    exact Lattice.seen_iff byHeight wide found otherFound

/-- Two terraces on a ring of four columns. -/
def ringConfig : LatticeConfig :=
  { kind := .simpleCubic
    columns := 4
    rows := 1
    initialHeight := 10
    steps := some { count := 2, height := 1, depth := 0 } }

/-- The ring of terraces with some growth on its last column. -/
def grownRing (amount : Int) : Lattice :=
  (Lattice.ofConfig ringConfig).modify 3 (Site.raise · amount)

theorem bond_seen_unless_level_at_seam_grown :
    (grownRing 2).coordination = .height ∧
      2 ≤ (grownRing 2).config.columns ∧
        (grownRing 2).Fits ∧
          3 ∈ (grownRing 2).neighbours 0 ∧
            (grownRing 2).config.seamHeight = 2 ∧
              (grownRing 2).heights = [10, 10, 11, 13] ∧
                (grownRing 2).sees? 0 3 = some true ∧
                  (grownRing 2).sees? 3 0 = some false := by
  have byHeight : (grownRing 2).coordination = .height := by decide +kernel
  have wide : 2 ≤ (grownRing 2).config.columns := by decide +kernel
  have fits : (grownRing 2).Fits := by decide +kernel
  have bonded : 3 ∈ (grownRing 2).neighbours 0 := by decide +kernel
  have lower : (grownRing 2).site? 0 = some (Site.vacant 10 "") := by
    decide +kernel
  have higher : (grownRing 2).site? 3 = some (Site.vacant 13 "") := by
    decide +kernel
  rcases bond_seen_unless_level_at_seam byHeight wide fits bonded with
    ⟨state, otherState, found, otherFound, sight⟩
  cases lower.symm.trans found
  cases higher.symm.trans otherFound
  have seam : (grownRing 2).config.IsSeam 0 3 := by decide +kernel
  have upward := (sight.upward seam).eq_some (by decide +kernel)
  have downward := (sight.downward seam).eq_some (by decide +kernel)
  exact
    ⟨byHeight, wide, fits, bonded, by decide +kernel, by decide +kernel,
      upward.trans (by decide +kernel), downward.trans (by decide +kernel)⟩

/-- When the last column has grown by one, the bond is lost from both ends. -/
theorem bond_lost_at_seam :
    ringConfig.fault? = none ∧
      3 ≤ ringConfig.columns ∧
        (grownRing 1).coordination = .height ∧
          (grownRing 1).Fits ∧
            3 ∈ (grownRing 1).neighbours 0 ∧
              (grownRing 1).sees? 0 3 = some false ∧
                (grownRing 1).sees? 3 0 = some false := by
  decide +kernel

end SurfaceKinetics
