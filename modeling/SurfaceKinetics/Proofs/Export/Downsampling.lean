import Mathlib.Algebra.Order.Round
import Mathlib.Data.Rat.Floor
import Mathlib.Tactic.FieldSimp
import Mathlib.Tactic.Ring
import SurfaceKinetics.Export.Downsampling

/-!
# Evenly spread rows

A table of `length` rows that is thinned out to `count` of them keeps the rows nearest
to the multiples of `(length - 1) / (count - 1)`.  This spacing is more than one when
rows are left out, so a position is always beyond the one before it: the kept rows
increase, there are `count` of them, and none is repeated.  From one position to the
next it is the whole part of the spacing, or one row more.
-/

namespace SurfaceKinetics.Downsampling

/-! ## Rounding -/

/-- Rounding a quotient of natural numbers agrees with rounding it as a number. -/
theorem roundHalfUp_eq_round
    (numerator : Nat)
    {denominator : Nat}
    (positive : 0 < denominator) :
    (roundHalfUp numerator denominator : Int) =
      round ((numerator : ℚ) / denominator) := by
  have shifted :
      (numerator : ℚ) / denominator + 1 / 2 =
        ((2 * numerator + denominator : Nat) : ℚ) / (2 * denominator : Nat) := by
    push_cast
    field_simp
  rw [round_eq, shifted, Rat.floor_natCast_div_natCast, roundHalfUp]
  rfl

/-! ## Positions -/

section Positions

variable {length count : Nat}

theorem position_zero (atLeastTwo : 2 ≤ count) : position length count 0 = 0 := by
  rw [position, roundHalfUp]
  exact Nat.div_eq_of_lt (by omega)

theorem position_last (atLeastTwo : 2 ≤ count) :
    position length count (count - 1) = length - 1 := by
  have stepsPos : 0 < 2 * (count - 1) := by omega
  have split :
      2 * ((count - 1) * (length - 1)) + (count - 1) =
        (count - 1) + 2 * (count - 1) * (length - 1) := by
    ring
  rw [position, roundHalfUp, split, Nat.add_mul_div_left _ _ stepsPos,
    Nat.div_eq_of_lt (by omega), Nat.zero_add]

/-- From one position to the next it is the whole spacing, or one row more. -/
theorem position_succ_bounds
    (length : Nat)
    {count : Nat}
    (place : Nat)
    (atLeastTwo : 2 ≤ count) :
    position length count place + (length - 1) / (count - 1) ≤
        position length count (place + 1) ∧
      position length count (place + 1) ≤
        position length count place + (length - 1) / (count - 1) + 1 := by
  have stepsPos : 0 < 2 * (count - 1) := by omega
  have next :
      2 * ((place + 1) * (length - 1)) + (count - 1) =
        2 * (place * (length - 1)) + (count - 1) + 2 * (length - 1) := by
    ring
  have spacing :
      2 * (length - 1) / (2 * (count - 1)) = (length - 1) / (count - 1) :=
    Nat.mul_div_mul_left _ _ Nat.two_pos
  have carried :=
    Nat.add_div (a := 2 * (place * (length - 1)) + (count - 1))
      (b := 2 * (length - 1)) stepsPos
  rw [position, position, roundHalfUp, roundHalfUp, next, carried, spacing]
  split <;> omega

/-- Where rows are left out, the positions increase. -/
theorem position_lt_succ
    (place : Nat)
    (atLeastTwo : 2 ≤ count)
    (fewer : count < length) :
    position length count place < position length count (place + 1) := by
  have spacingPos : 0 < (length - 1) / (count - 1) :=
    Nat.div_pos (by omega) (by omega)
  have := (position_succ_bounds length place atLeastTwo).1
  omega

theorem strictMono_position
    (atLeastTwo : 2 ≤ count)
    (fewer : count < length) :
    StrictMono (position length count) :=
  strictMono_nat_of_lt_succ fun place => position_lt_succ place atLeastTwo fewer

/-- A position is at most half a row away from the exact one. -/
theorem abs_position_sub_le
    (place : Nat)
    (atLeastTwo : 2 ≤ count)
    (fewer : count < length) :
    |(position length count place : ℚ) -
        place * ((length : ℚ) - 1) / ((count : ℚ) - 1)| ≤
      1 / 2 := by
  have stepsPos : 0 < count - 1 := by omega
  have rounded :=
    roundHalfUp_eq_round (place * (length - 1)) stepsPos
  have exactEq :
      ((place * (length - 1) : Nat) : ℚ) / (count - 1 : Nat) =
        place * ((length : ℚ) - 1) / ((count : ℚ) - 1) := by
    rw [Nat.cast_mul, Nat.cast_sub (by omega), Nat.cast_sub (by omega), Nat.cast_one]
  rw [exactEq] at rounded
  have near := abs_sub_round (place * ((length : ℚ) - 1) / ((count : ℚ) - 1))
  rw [← rounded, Int.cast_natCast, abs_sub_comm] at near
  exact near

end Positions

/-! ## Kept rows -/

/-- Rows that increase are not repeated. -/
theorem withoutRepeats_of_pairwise_lt
    {rows : List Nat}
    (increasing : rows.Pairwise (· < ·)) :
    withoutRepeats rows = rows := by
  induction rows with
  | nil => rfl
  | cons first rest induction =>
      rcases List.pairwise_cons.mp increasing with ⟨below, ordered⟩
      rw [withoutRepeats, induction ordered]
      cases rest with
      | nil => rfl
      | cons next others =>
          exact if_neg (below next List.mem_cons_self).ne

theorem pairwise_positions
    {length count : Nat}
    (atLeastTwo : 2 ≤ count)
    (fewer : count < length) :
    ((List.range count).map (position length count)).Pairwise (· < ·) :=
  List.pairwise_map.mpr <|
    List.pairwise_lt_range.imp fun earlier =>
      strictMono_position atLeastTwo fewer earlier

/-- Where rows are left out, every position is kept. -/
theorem indices_some
    {length count : Nat}
    (atLeastTwo : 2 ≤ count)
    (fewer : count < length) :
    indices length (some count) = (List.range count).map (position length count) := by
  rw [indices, if_pos ⟨atLeastTwo, fewer⟩,
    withoutRepeats_of_pairwise_lt (pairwise_positions atLeastTwo fewer)]

theorem indices_of_le
    {length count : Nat}
    (enough : length ≤ count) :
    indices length (some count) = List.range length := by
  rw [indices, if_neg (by omega), if_neg (by omega)]

/-- Rows that are kept are rows of the table. -/
theorem lt_of_mem_indices
    {length : Nat}
    {count : Option Nat}
    {row : Nat}
    (kept : row ∈ indices length count) :
    row < length := by
  cases count with
  | none => exact List.mem_range.mp kept
  | some count =>
      by_cases thinned : 2 ≤ count ∧ count < length
      · rcases thinned with ⟨atLeastTwo, fewer⟩
        rw [indices_some atLeastTwo fewer] at kept
        rcases List.mem_map.mp kept with ⟨place, inside, rfl⟩
        have placeLe : place ≤ count - 1 := by
          have := List.mem_range.mp inside
          omega
        have atMost :=
          (strictMono_position atLeastTwo fewer).monotone placeLe
        rw [position_last atLeastTwo] at atMost
        omega
      · rw [indices, if_neg thinned] at kept
        split at kept
        · rw [List.mem_singleton] at kept
          omega
        · exact List.mem_range.mp kept

/-- The rows that are kept of a table when it is thinned out evenly. -/
structure EvenlySpread (length count : Nat) (kept : List Nat) : Prop where
  length_eq : kept.length = count
  increasing : kept.Pairwise (· < ·)
  first : kept.head? = some 0
  last : kept.getLast? = some (length - 1)
  near :
    ∀ (place : Nat) (inside : place < kept.length),
      |(kept[place] : ℚ) - place * ((length : ℚ) - 1) / ((count : ℚ) - 1)| ≤ 1 / 2
  gaps :
    ∀ (place other : Nat)
      (inside : place + 1 < kept.length) (otherInside : other + 1 < kept.length),
      kept[place + 1] - kept[place] ≤ kept[other + 1] - kept[other] + 1
  undiminished :
    kept = (List.range count).map (position length count)

/--
A table that is thinned out to at least two of its rows keeps exactly as many, evenly
spread from the first to the last, and no position is lost as a repeat of another.  A
table that is not thinned out keeps all rows.
-/
theorem rows_evenly_spread (length : Nat) :
    (∀ count,
      2 ≤ count →
        count < length → EvenlySpread length count (indices length (some count))) ∧
      (∀ count, length ≤ count → indices length (some count) = List.range length) ∧
        indices length none = List.range length := by
  refine ⟨?_, fun _ => indices_of_le, rfl⟩
  intro count atLeastTwo fewer
  rw [indices_some atLeastTwo fewer]
  refine
    { length_eq := by rw [List.length_map, List.length_range]
      increasing := pairwise_positions atLeastTwo fewer
      first := ?_
      last := ?_
      near := ?_
      gaps := ?_
      undiminished := rfl }
  · rw [List.head?_map, List.head?_range, if_neg (by omega), Option.map_some,
      position_zero atLeastTwo]
  · rw [List.getLast?_map, List.getLast?_range, if_neg (by omega), Option.map_some,
      position_last atLeastTwo]
  · intro place inside
    rw [List.getElem_map, List.getElem_range]
    exact abs_position_sub_le place atLeastTwo fewer
  · intro place other inside otherInside
    simp only [List.getElem_map, List.getElem_range]
    have here := position_succ_bounds length place atLeastTwo
    have there := position_succ_bounds length other atLeastTwo
    omega

theorem rows_evenly_spread_half :
    (2 ≤ 3 ∧ 3 < 6) ∧
      indices 6 (some 3) = [0, 3, 5] ∧ EvenlySpread 6 3 (indices 6 (some 3)) :=
  ⟨by decide, by decide, (rows_evenly_spread 6).1 3 (by decide) (by decide)⟩

end SurfaceKinetics.Downsampling
