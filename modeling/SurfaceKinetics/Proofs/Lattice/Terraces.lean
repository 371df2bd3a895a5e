import Mathlib.Tactic.ByContra
import SurfaceKinetics.Proofs.Lattice.Building

/-!
# Terraces

The terraces of a configuration without faults divide its columns evenly: each is as
wide as the others, and as many as are configured fill the grid.  Columns start at the
height of their terrace, the first of them on the ground.
-/

namespace SurfaceKinetics

namespace LatticeConfig

/-! ## Widths -/

section Terraces

variable
    {config : LatticeConfig}
    {steps : StepProfile}
    (stepped : config.steps = some steps)
    (faultless : config.fault? = none)

include faultless

theorem columns_pos : 0 < config.columns := by
  have proper := (fault?_eq_none_iff.mp faultless).1
  omega

theorem rows_pos : 0 < config.rows := by
  have proper := (fault?_eq_none_iff.mp faultless).1
  omega

include stepped

theorem count_pos : 0 < steps.count := by
  have proper := (fault?_eq_none_iff.mp faultless).2 steps stepped
  omega

theorem count_mul_terraceWidth :
    steps.count * steps.terraceWidth config.columns = config.columns := by
  have divides : steps.count ∣ config.columns := by
    by_contra uneven
    exact (fault?_eq_none_iff.mp faultless).2 steps stepped (Or.inr uneven)
  rw [StepProfile.terraceWidth, Nat.max_eq_left (count_pos stepped faultless)]
  exact Nat.mul_div_cancel' divides

theorem terraceWidth_pos : 0 < steps.terraceWidth config.columns := by
  have product := count_mul_terraceWidth stepped faultless
  have columnsPos := columns_pos faultless
  rw [← product] at columnsPos
  exact Nat.pos_of_mul_pos_left columnsPos

theorem count_le_columns : steps.count ≤ config.columns := by
  rw [← count_mul_terraceWidth stepped faultless]
  exact Nat.le_mul_of_pos_right _ (terraceWidth_pos stepped faultless)

/-- Columns lie on the terraces that are counted. -/
theorem terrace_lt {column : Nat} (inside : column < config.columns) :
    column / steps.terraceWidth config.columns < steps.count := by
  rw [Nat.div_lt_iff_lt_mul (terraceWidth_pos stepped faultless),
    count_mul_terraceWidth stepped faultless]
  exact inside

/-- The last column lies on the last terrace. -/
theorem terrace_last :
    (config.columns - 1) / steps.terraceWidth config.columns = steps.count - 1 := by
  have product := count_mul_terraceWidth stepped faultless
  have widthPos := terraceWidth_pos stepped faultless
  have countPos := count_pos stepped faultless
  rw [Nat.div_eq_iff widthPos, Nat.sub_mul, product]
  omega

/-! ## Heights -/

omit faultless in
theorem startHeight_of_steps (column : Nat) :
    config.startHeight column =
      config.initialHeight +
        (column / steps.terraceWidth config.columns : Nat) * steps.height := by
  rw [startHeight, stepped]

omit faultless in
theorem startHeight_first : config.startHeight 0 = config.initialHeight := by
  rw [startHeight_of_steps stepped, Nat.zero_div, Int.natCast_zero, Int.zero_mul,
    Int.add_zero]

theorem startHeight_last :
    config.startHeight (config.columns - 1) =
      config.initialHeight + (steps.count - 1 : Nat) * steps.height := by
  rw [startHeight_of_steps stepped, terrace_last stepped faultless]

end Terraces

end LatticeConfig

end SurfaceKinetics
