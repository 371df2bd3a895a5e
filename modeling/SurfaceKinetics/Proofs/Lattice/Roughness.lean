import SurfaceKinetics.Proofs.Lattice.BondGraph
import SurfaceKinetics.Proofs.Lattice.Seam
import SurfaceKinetics.Proofs.Quantity.Exact
import SurfaceKinetics.Surface

/-!
# Roughness

The height differences between all sites and their neighbours come twice from every
bond, once from each end.  The roughness adds half of them per site to one, so it is
one at least, and exactly one when no bond crosses a step.  As bonds link all sites,
that is so only when all columns have the same height.
-/

namespace SurfaceKinetics

/-! ## Steps -/

namespace Lattice

variable {lattice : Lattice}

/-- The height of the column at a site. -/
def heightAt (lattice : Lattice) (site : Fin lattice.size) : Int :=
  have inside : (site : Nat) < lattice.sites.size := site.isLt
  lattice.sites[(site : Nat)].height

theorem heightAt_eq
    {site : Fin lattice.size}
    {state : Site}
    (found : lattice.site? site = some state) :
    lattice.heightAt site = state.height := by
  rcases Array.getElem?_eq_some_iff.mp found with ⟨_, rfl⟩
  rfl

/-- The height of the step across a bond, from either end. -/
def stepAcross (lattice : Lattice) : Sym2 (Fin lattice.size) → Nat :=
  Sym2.lift
    ⟨fun site other => (lattice.heightAt site - lattice.heightAt other).natAbs,
      fun site other => by
        dsimp only
        omega⟩

theorem stepAcross_eq (site other : Fin lattice.size) :
    lattice.stepAcross s(site, other) =
      (lattice.heightAt site - lattice.heightAt other).natAbs :=
  rfl

theorem stepAcross_eq_zero_iff {site other : Fin lattice.size} :
    lattice.stepAcross s(site, other) = 0 ↔
      lattice.heightAt site = lattice.heightAt other := by
  rw [stepAcross_eq, Int.natAbs_eq_zero, Int.sub_eq_zero]

/-- There are no steps exactly when the surface is flat. -/
theorem sum_stepAcross_eq_zero_iff :
    ∑ bond ∈ lattice.bondGraph.edgeFinset, lattice.stepAcross bond = 0 ↔
      ∀ site other, lattice.heightAt site = lattice.heightAt other := by
  rw [Finset.sum_eq_zero_iff]
  constructor
  · intro even site other
    refine eq_of_reachable ?_ (lattice.bondGraph_preconnected site other)
    intro first second bonded
    exact stepAcross_eq_zero_iff.mp (even _ (SimpleGraph.mem_edgeFinset.mpr bonded))
  · intro flat bond _
    induction bond with
    | _ site other => exact stepAcross_eq_zero_iff.mpr (flat site other)

end Lattice

/-! ## The measured roughness -/

theorem total_eq_sum (counts : List Nat) : total counts = counts.sum := rfl

namespace Surface

theorem bondSteps_eq_sum (lattice : Lattice) (site : Fin lattice.size) :
    bondSteps lattice site =
      ∑ other ∈ lattice.bondGraph.neighborFinset site,
        lattice.stepAcross s(site, other) := by
  rcases lattice.exists_state site.isLt with ⟨state, found⟩
  rw [bondSteps, found]
  dsimp only
  rw [total_eq_sum, Lattice.sum_map_neighbours]
  refine Finset.sum_congr rfl fun other _ => ?_
  rcases lattice.exists_state other.isLt with ⟨otherState, otherFound⟩
  rw [otherFound, Lattice.stepAcross_eq, Lattice.heightAt_eq found,
    Lattice.heightAt_eq otherFound]

theorem totalSteps_eq_sum (lattice : Lattice) :
    totalSteps lattice =
      ∑ site, ∑ other ∈ lattice.bondGraph.neighborFinset site,
        lattice.stepAcross s(site, other) := by
  rw [totalSteps, total_eq_sum, ← List.sum_toFinset _ List.nodup_range,
    List.toFinset_range, Finset.sum_range]
  exact Finset.sum_congr rfl fun site _ => bondSteps_eq_sum lattice site

/-- Every bond is measured from both of its ends. -/
theorem totalSteps_eq_two_mul (lattice : Lattice) :
    totalSteps lattice =
      2 * ∑ bond ∈ lattice.bondGraph.edgeFinset, lattice.stepAcross bond := by
  rw [totalSteps_eq_sum, sum_sum_neighborFinset]

theorem totalSteps_eq_zero_iff (lattice : Lattice) :
    totalSteps lattice = 0 ↔
      ∀ site other, lattice.heightAt site = lattice.heightAt other := by
  rw [totalSteps_eq_two_mul, Nat.mul_eq_zero, or_iff_right two_ne_zero,
    Lattice.sum_stepAcross_eq_zero_iff]

variable {α : Type} [ExactQuantity α]

/-- With no sites there are no steps, so that case is no exception. -/
theorem roughnessOf_eq (lattice : Lattice) :
    (roughnessOf lattice : α) =
      1 + (totalSteps lattice : α) / (2 * (lattice.size : α)) := by
  rw [roughnessOf]
  split
  · next empty => simp [empty]
  · simp

theorem one_le_roughnessOf (lattice : Lattice) : 1 ≤ (roughnessOf lattice : α) := by
  rw [roughnessOf_eq]
  exact le_add_of_nonneg_right (by positivity)

theorem roughnessOf_eq_one_iff (lattice : Lattice) :
    (roughnessOf lattice : α) = 1 ↔ totalSteps lattice = 0 := by
  rw [roughnessOf_eq, add_eq_left, div_eq_zero_iff]
  constructor
  · rintro (stepsEq | sitesEq)
    · exact Nat.cast_eq_zero.mp stepsEq
    · have sizeEq : lattice.size = 0 :=
        Nat.cast_eq_zero.mp ((mul_eq_zero.mp sitesEq).resolve_left two_ne_zero)
      rw [totalSteps, sizeEq]
      rfl
  · intro stepsEq
    rw [stepsEq, Nat.cast_zero]
    exact .inl rfl

end Surface

/--
The height differences between all sites and their neighbours add up to twice the
steps across the bonds.  The roughness is at least one, and it is one exactly on flat
surfaces.
-/
theorem roughness_counts_bonds_twice
    {α : Type}
    [ExactQuantity α]
    (lattice : Lattice) :
    (Surface.totalSteps lattice : Int) =
        ∑ site, ∑ other ∈ lattice.bondGraph.neighborFinset site,
          |lattice.heightAt site - lattice.heightAt other| ∧
      Surface.totalSteps lattice =
          2 * ∑ bond ∈ lattice.bondGraph.edgeFinset, lattice.stepAcross bond ∧
        1 ≤ (Surface.roughnessOf lattice : α) ∧
          ((Surface.roughnessOf lattice : α) = 1 ↔
            ∀ site other, lattice.heightAt site = lattice.heightAt other) := by
  refine ⟨?_, Surface.totalSteps_eq_two_mul lattice, ?_, ?_⟩
  · rw [Surface.totalSteps_eq_sum]
    simp only [Nat.cast_sum, Lattice.stepAcross_eq, Int.natCast_natAbs]
  · exact Surface.one_le_roughnessOf lattice
  · rw [Surface.roughnessOf_eq_one_iff, Surface.totalSteps_eq_zero_iff]

end SurfaceKinetics
