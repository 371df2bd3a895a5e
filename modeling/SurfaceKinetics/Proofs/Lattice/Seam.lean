import SurfaceKinetics.Proofs.Lattice.Building
import SurfaceKinetics.Proofs.Lattice.Neighbourhood

/-!
# Bonds across the seam

A site sees a neighbour that counts as occupied for it.  By height the lower of two
neighbouring columns sees the higher one, and level columns see each other, so one
end of a bond is always seen from the other.

The edges of a stepped surface that meet at its periodic seam are compared with an
allowance, the seam height.  The lower edge sees the higher one when this stands
further above it than the seam height, and the higher edge sees the lower one when
it stands less far above.  At exactly the seam height neither sees the other, and
that is the only bond which is invisible from both ends.
-/

namespace SurfaceKinetics

/-! ## The two sides of a seam -/

namespace LatticeConfig

theorem isLowerEdge_iff {config : LatticeConfig} {site : Nat} :
    config.isLowerEdge site = true ↔
      config.steps.isSome = true ∧ config.grid.columnOf site = 0 := by
  rw [isLowerEdge, Bool.and_eq_true, beq_iff_eq]
  rfl

theorem isHigherEdge_iff {config : LatticeConfig} {site : Nat} :
    config.isHigherEdge site = true ↔
      config.steps.isSome = true ∧
        config.grid.columnOf site + 1 = config.columns := by
  rw [isHigherEdge, Bool.and_eq_true, beq_iff_eq]
  rfl

end LatticeConfig

/-- Two sites are the lower and the higher side of the seam of a stepped surface. -/
def LatticeConfig.IsSeam (config : LatticeConfig) (lower higher : Nat) : Prop :=
  config.isLowerEdge lower = true ∧ config.isHigherEdge higher = true

instance (config : LatticeConfig) (lower higher : Nat) :
    Decidable (config.IsSeam lower higher) :=
  inferInstanceAs (Decidable (_ ∧ _))

/-- With two columns or more the sides of the seam are different columns. -/
theorem LatticeConfig.IsSeam.not_symm
    {config : LatticeConfig}
    (wide : 2 ≤ config.columns)
    {lower higher : Nat}
    (seam : config.IsSeam lower higher) :
    ¬ config.IsSeam higher lower := by
  intro reversed
  have first := (Bool.and_eq_true_iff.mp seam.1).2
  have last := (Bool.and_eq_true_iff.mp reversed.2).2
  rw [beq_iff_eq] at first last
  omega

namespace Lattice

variable {lattice : Lattice}

/-! ## Thresholds -/

theorem threshold_of_isSeam
    {lower higher : Nat}
    (seam : lattice.config.IsSeam lower higher)
    (height : Int) :
    lattice.threshold lower higher height =
      height + lattice.config.seamHeight + 1 := by
  rw [threshold]
  exact if_pos (Bool.and_eq_true_iff.mpr seam)

theorem threshold_of_reversed
    {lower higher : Nat}
    (notSeam : ¬ lattice.config.IsSeam higher lower)
    (reversed : lattice.config.IsSeam lower higher)
    (height : Int) :
    lattice.threshold higher lower height =
      height - lattice.config.seamHeight + 1 := by
  rw [threshold]
  exact
    (if_neg (mt Bool.and_eq_true_iff.mp notSeam)).trans
      (if_pos (Bool.and_eq_true_iff.mpr reversed))

/-- Away from the seam columns are compared as they are. -/
theorem threshold_of_not_isSeam
    {site other : Nat}
    (notSeam : ¬ lattice.config.IsSeam site other)
    (notReversed : ¬ lattice.config.IsSeam other site)
    (height : Int) :
    lattice.threshold site other height = height := by
  rw [threshold]
  exact
    (if_neg (mt Bool.and_eq_true_iff.mp notSeam)).trans
      (if_neg (mt Bool.and_eq_true_iff.mp notReversed))

/-! ## Sight -/

/-- Whether a site counts another one as occupied. -/
def sees (lattice : Lattice) (site other : Nat) : Bool :=
  match lattice.site? site, lattice.site? other with
  | some state, some otherState =>
    lattice.countsAsOccupied site other state otherState
  | _, _ => false

/-- The occupied neighbours of a site are those that it sees. -/
theorem occupiedNeighbours_eq_countP_sees (lattice : Lattice) (site : Nat) :
    lattice.occupiedNeighbours site =
      (lattice.neighbours site).countP (lattice.sees site) := by
  rw [occupiedNeighbours]
  cases found : lattice.site? site with
  | none =>
      have beyond := lattice.site?_eq_none_iff.mp found
      rw [neighbours, if_neg (Nat.not_lt.mpr beyond)]
      rfl
  | some state =>
      apply List.countP_congr
      intro other _
      rw [sees, found]
      cases lattice.site? other <;> rfl

theorem exists_state {site : Nat} (inside : site < lattice.size) :
    ∃ state, lattice.site? site = some state :=
  ⟨_, Array.getElem?_eq_getElem inside⟩

section Sight

variable
    (byHeight : lattice.coordination = .height)
    {site other : Nat}
    {state otherState : Site}
    (found : lattice.site? site = some state)
    (otherFound : lattice.site? other = some otherState)

include byHeight found otherFound

theorem sees_iff :
    lattice.sees site other = true ↔
      lattice.threshold site other state.height ≤ otherState.height := by
  rw [sees, found, otherFound]
  dsimp only
  rw [countsAsOccupied, byHeight]
  exact decide_eq_true_iff

theorem sees_iff_of_not_isSeam
    (notSeam : ¬ lattice.config.IsSeam site other)
    (notReversed : ¬ lattice.config.IsSeam other site) :
    lattice.sees site other = true ↔ state.height ≤ otherState.height := by
  rw [sees_iff byHeight found otherFound,
    threshold_of_not_isSeam notSeam notReversed]

/-- The lower edge sees the higher one when this stands far above it. -/
theorem sees_iff_of_isSeam (seam : lattice.config.IsSeam site other) :
    lattice.sees site other = true ↔
      state.height + lattice.config.seamHeight < otherState.height := by
  rw [sees_iff byHeight found otherFound, threshold_of_isSeam seam,
    Int.add_one_le_iff]

/-- The higher edge sees the lower one unless it stands far above it. -/
theorem sees_iff_of_reversed
    (notSeam : ¬ lattice.config.IsSeam site other)
    (reversed : lattice.config.IsSeam other site) :
    lattice.sees site other = true ↔
      state.height < otherState.height + lattice.config.seamHeight := by
  rw [sees_iff byHeight found otherFound,
    threshold_of_reversed notSeam reversed]
  omega

end Sight

/-- One end of a bond is seen from the other, but for seams at the seam height. -/
theorem seen_iff
    (byHeight : lattice.coordination = .height)
    (wide : 2 ≤ lattice.config.columns)
    {site other : Nat}
    {state otherState : Site}
    (found : lattice.site? site = some state)
    (otherFound : lattice.site? other = some otherState) :
    lattice.sees site other = true ∨ lattice.sees other site = true ↔
      ¬ (lattice.config.IsSeam site other ∧
          otherState.height = state.height + lattice.config.seamHeight) ∧
        ¬ (lattice.config.IsSeam other site ∧
          state.height = otherState.height + lattice.config.seamHeight) := by
  by_cases seam : lattice.config.IsSeam site other
  · have notReversed := seam.not_symm wide
    rw [sees_iff_of_isSeam byHeight found otherFound seam,
      sees_iff_of_reversed byHeight otherFound found notReversed seam]
    simp only [seam, notReversed, true_and, false_and, not_false_eq_true,
      and_true]
    omega
  · by_cases reversed : lattice.config.IsSeam other site
    · rw [sees_iff_of_reversed byHeight found otherFound seam reversed,
        sees_iff_of_isSeam byHeight otherFound found reversed]
      simp only [seam, reversed, true_and, false_and, not_false_eq_true]
      omega
    · rw [sees_iff_of_not_isSeam byHeight found otherFound seam reversed,
        sees_iff_of_not_isSeam byHeight otherFound found reversed seam]
      simp only [seam, reversed, false_and, not_false_eq_true, and_true, iff_true]
      exact Int.le_total _ _

end Lattice

end SurfaceKinetics
