import Mathlib.Algebra.Order.BigOperators.Group.List
import Mathlib.Tactic.Linarith
import SurfaceKinetics.Proofs.Simulation.Pairs
import SurfaceKinetics.Proofs.Simulation.Stopping

/-!
# Selection by weight

The rates of a list of pairs divide the line from zero to their sum into intervals,
one for each pair and as long as its rate.  A target below the sum selects the pair
whose interval holds it; a target beyond selects the last pair whose rate is not
zero.  So the share of the targets that select a pair is its share of the sum.

The sum over the pairs of a table is its total rate, although that is added up
process by process; hence a share of the total rate below one selects a pair in
whose interval it lies.
-/

namespace SurfaceKinetics

variable {α : Type}

section Weights

variable [ExactQuantity α]

/-! ## Cumulative rates -/

/-- The sum of the rates before a place. -/
def cumulative (pairs : List (LivePair α)) (place : Nat) : α :=
  ((pairs.take place).map LivePair.rate).sum

theorem cumulative_zero (pairs : List (LivePair α)) : cumulative pairs 0 = 0 :=
  rfl

theorem cumulative_cons
    (first : LivePair α)
    (rest : List (LivePair α))
    (place : Nat) :
    cumulative (first :: rest) (place + 1) = first.rate + cumulative rest place := by
  rw [cumulative, List.take_succ_cons, List.map_cons, List.sum_cons, cumulative]

theorem cumulative_length (pairs : List (LivePair α)) :
    cumulative pairs pairs.length = (pairs.map LivePair.rate).sum := by
  rw [cumulative, List.take_length]

theorem cumulative_mono
    {pairs : List (LivePair α)}
    (nonneg : ∀ pair ∈ pairs, 0 ≤ pair.rate)
    {earlier later : Nat}
    (le : earlier ≤ later) :
    cumulative pairs earlier ≤ cumulative pairs later := by
  rw [cumulative, cumulative]
  refine List.Sublist.sum_le_sum ?_ ?_
  · exact (List.take_sublist_take_left le).map _
  · intro rate member
    rcases List.mem_map.mp member with ⟨pair, taken, rfl⟩
    exact nonneg pair (List.mem_of_mem_take taken)

/-- The interval of the pair at a place holds a target. -/
structure IntervalHolds
    (pairs : List (LivePair α))
    (target : α)
    (place : Nat)
    (pair : LivePair α) : Prop where
  found : pairs[place]? = some pair
  reached : cumulative pairs place ≤ target
  exceeded : target < cumulative pairs (place + 1)

namespace IntervalHolds

theorem here
    {first : LivePair α}
    {rest : List (LivePair α)}
    {target : α}
    (nonneg : 0 ≤ target)
    (below : target < first.rate) :
    IntervalHolds (first :: rest) target 0 first where
  found := rfl
  reached := nonneg
  exceeded := by
    rw [cumulative_cons, cumulative_zero, add_zero]
    exact below

/-- The intervals behind a pair are moved on by its rate. -/
theorem there
    {first pair : LivePair α}
    {rest : List (LivePair α)}
    {target : α}
    {place : Nat}
    (holds : IntervalHolds rest (target - first.rate) place pair) :
    IntervalHolds (first :: rest) target (place + 1) pair where
  found := holds.found
  reached := by
    have reached := holds.reached
    rw [cumulative_cons]
    linarith
  exceeded := by
    have exceeded := holds.exceeded
    rw [cumulative_cons]
    linarith

theorem place_unique
    {pairs : List (LivePair α)}
    (nonneg : ∀ pair ∈ pairs, 0 ≤ pair.rate)
    {target : α}
    {place other : Nat}
    {pair otherPair : LivePair α}
    (holds : IntervalHolds pairs target place pair)
    (otherHolds : IntervalHolds pairs target other otherPair) :
    place = other := by
  rcases Nat.lt_trichotomy place other with before | equal | behind
  · have le := cumulative_mono nonneg (Nat.succ_le_of_lt before)
    exact absurd (holds.exceeded.trans_le (le.trans otherHolds.reached)) (lt_irrefl _)
  · exact equal
  · have le := cumulative_mono nonneg (Nat.succ_le_of_lt behind)
    exact absurd (otherHolds.exceeded.trans_le (le.trans holds.reached)) (lt_irrefl _)

end IntervalHolds

/-! ## Scans -/

/-- Below the sum a scan stops at the pair whose interval holds the target. -/
theorem selectFrom_of_lt
    {pairs : List (LivePair α)}
    (nonneg : ∀ pair ∈ pairs, 0 ≤ pair.rate)
    {target start : α}
    (reached : start ≤ target)
    (below : target < start + (pairs.map LivePair.rate).sum)
    (last : Option (LivePair α)) :
    ∃ place pair,
      selectFrom target start last pairs = some pair ∧
        IntervalHolds pairs (target - start) place pair := by
  induction pairs generalizing start last with
  | nil =>
      rw [List.map_nil, List.sum_nil, add_zero] at below
      exact absurd below (not_lt_of_ge reached)
  | cons first rest induction =>
      rcases List.forall_mem_cons.mp nonneg with ⟨firstNonneg, restNonneg⟩
      rw [List.map_cons, List.sum_cons, ← add_assoc] at below
      rw [selectFrom, Quantity.zero_eq]
      split
      · next idle =>
          have nothing : first.rate = 0 := le_antisymm idle firstNonneg
          rw [nothing, add_zero] at below
          rcases induction restNonneg reached below last with
            ⟨place, pair, selected, holds⟩
          refine ⟨place + 1, pair, selected, IntervalHolds.there ?_⟩
          rw [nothing, sub_zero]
          exact holds
      · split
        · next stops =>
            refine ⟨0, first, rfl, IntervalHolds.here ?_ ?_⟩
            · exact sub_nonneg.mpr reached
            · exact sub_lt_iff_lt_add'.mpr stops
        · next goesOn =>
            rcases induction restNonneg (not_lt.mp goesOn) below (some first)
              with ⟨place, pair, selected, holds⟩
            refine ⟨place + 1, pair, selected, IntervalHolds.there ?_⟩
            rw [sub_sub]
            exact holds

/-- The last pair with a rate above zero. -/
def lastPositive? (pairs : List (LivePair α)) : Option (LivePair α) :=
  (pairs.filter fun pair => 0 < pair.rate).getLast?

/-- From the sum on a scan comes to its end. -/
theorem selectFrom_of_le
    {pairs : List (LivePair α)}
    (nonneg : ∀ pair ∈ pairs, 0 ≤ pair.rate)
    {target start : α}
    (beyond : start + (pairs.map LivePair.rate).sum ≤ target)
    (last : Option (LivePair α)) :
    selectFrom target start last pairs = (lastPositive? pairs).or last := by
  induction pairs generalizing start last with
  | nil => rfl
  | cons first rest induction =>
      rcases List.forall_mem_cons.mp nonneg with ⟨firstNonneg, restNonneg⟩
      have sumNonneg : 0 ≤ (rest.map LivePair.rate).sum :=
        List.sum_nonneg (List.forall_mem_map.mpr restNonneg)
      rw [List.map_cons, List.sum_cons, ← add_assoc] at beyond
      rw [selectFrom, Quantity.zero_eq, lastPositive?, List.filter_cons]
      split
      · next idle =>
          have nothing : first.rate = 0 := le_antisymm idle firstNonneg
          rw [nothing, add_zero] at beyond
          rw [induction restNonneg beyond last, lastPositive?,
            if_neg (by simpa using idle)]
      · next positive =>
          have goesOn : start + first.rate ≤ target :=
            (le_add_of_nonneg_right sumNonneg).trans beyond
          rw [if_neg (not_lt_of_ge goesOn), induction restNonneg beyond,
            lastPositive?, if_pos (by simpa using positive), List.getLast?_cons]
          cases (rest.filter fun pair => 0 < pair.rate).getLast? <;> rfl

section Selecting

variable
    {pairs : List (LivePair α)}
    (nonneg : ∀ pair ∈ pairs, 0 ≤ pair.rate)

include nonneg

theorem exists_selected
    {target : α}
    (targetNonneg : 0 ≤ target)
    (below : target < cumulative pairs pairs.length) :
    ∃ place pair,
      selectEvent pairs target = some pair ∧
        IntervalHolds pairs target place pair := by
  rw [cumulative_length, ← zero_add (List.sum _)] at below
  have scanned := selectFrom_of_lt nonneg targetNonneg below none
  rw [sub_zero] at scanned
  rw [selectEvent, Quantity.zero_eq]
  exact scanned

/-- The intervals share no target, and below the sum they leave none out. -/
theorem existsUnique_place
    {target : α}
    (targetNonneg : 0 ≤ target)
    (below : target < cumulative pairs pairs.length) :
    ∃! place, ∃ pair, IntervalHolds pairs target place pair := by
  rcases exists_selected nonneg targetNonneg below with ⟨place, pair, _, holds⟩
  refine ⟨place, ⟨pair, holds⟩, ?_⟩
  rintro other ⟨otherPair, otherHolds⟩
  exact otherHolds.place_unique nonneg holds

theorem selectEvent_eq_some_iff
    {target : α}
    (targetNonneg : 0 ≤ target)
    (below : target < cumulative pairs pairs.length)
    (pair : LivePair α) :
    selectEvent pairs target = some pair ↔
      ∃ place, IntervalHolds pairs target place pair := by
  rcases exists_selected nonneg targetNonneg below with
    ⟨place, selectedPair, selected, holds⟩
  rw [selected, Option.some.injEq]
  constructor
  · rintro rfl
    exact ⟨place, holds⟩
  · rintro ⟨other, otherHolds⟩
    cases otherHolds.place_unique nonneg holds
    exact Option.some.inj (holds.found.symm.trans otherHolds.found)

theorem selectEvent_eq_lastPositive?
    {target : α}
    (beyond : cumulative pairs pairs.length ≤ target) :
    selectEvent pairs target = lastPositive? pairs := by
  rw [cumulative_length, ← zero_add (List.sum _)] at beyond
  rw [selectEvent, Quantity.zero_eq, selectFrom_of_le nonneg beyond none,
    Option.or_none]

theorem selectEvent_eq_none_iff (target : α) :
    selectEvent pairs target = none ↔ ∀ pair ∈ pairs, pair.rate = 0 := by
  constructor
  · intro nothing pair member
    have idle := (selectFrom_eq_none nothing).2 pair member
    rw [Quantity.zero_eq] at idle
    exact le_antisymm idle (nonneg pair member)
  · intro idle
    by_contra something
    rcases Option.ne_none_iff_exists'.mp something with ⟨pair, selected⟩
    rcases selectFrom_mem selected with impossible | ⟨member, positive⟩
    · cases impossible
    · rw [Quantity.zero_eq] at positive
      exact positive (idle pair member).le

end Selecting

theorem rate_pos_of_selectEvent
    {pairs : List (LivePair α)}
    {target : α}
    {pair : LivePair α}
    (selected : selectEvent pairs target = some pair) :
    0 < pair.rate := by
  rcases selectFrom_mem selected with impossible | ⟨_, positive⟩
  · cases impossible
  · rw [Quantity.zero_eq] at positive
    exact not_le.mp positive

end Weights

/-- Adding up process by process comes to the sum over all pairs. -/
theorem EventTable.totalRate_eq_cumulative
    [ExactQuantity α]
    (table : EventTable α) :
    table.totalRate = cumulative table.pairs table.pairs.length := by
  rw [totalRate_eq_sum, cumulative_length]

/--
Targets select by weight: below the sum of the rates the pair whose interval holds
the target, which is one pair only, and beyond the sum the last one with a positive
rate; so pairs of rate zero are never selected, and nothing is only where no rate is
positive.  A table lists its entries once each, in order; its size and total rate are
those of the list, and a share below one of a positive total rate selects the pair in
whose interval it lies.
-/
theorem selection_follows_weights [ExactQuantity α] :
    (∀ pairs : List (LivePair α),
      (∀ pair ∈ pairs, 0 ≤ pair.rate) →
        (∀ target,
          0 ≤ target →
            target < cumulative pairs pairs.length →
              (∃! place, ∃ pair, IntervalHolds pairs target place pair) ∧
                ∀ pair,
                  selectEvent pairs target = some pair ↔
                    ∃ place, IntervalHolds pairs target place pair) ∧
          (∀ target,
            cumulative pairs pairs.length ≤ target →
              selectEvent pairs target = lastPositive? pairs) ∧
            (∀ target pair,
              selectEvent pairs target = some pair → 0 < pair.rate) ∧
              ∀ target,
                selectEvent pairs target = none ↔
                  ∀ pair ∈ pairs, pair.rate = 0) ∧
      ∀ table : EventTable α,
        (∀ pair,
          pair ∈ table.pairs ↔
            ∃ row,
              table.rows[pair.process]? = some row ∧
                row[pair.site]? = some (some pair.rate)) ∧
          table.pairs.Pairwise LivePair.Precedes ∧
            table.size = table.pairs.length ∧
              table.size =
                  total
                    ((List.range table.rows.length).map
                      table.eligibleCount) ∧
                table.totalRate = cumulative table.pairs table.pairs.length ∧
                  ((∀ pair ∈ table.pairs, 0 ≤ pair.rate) →
                    0 < table.totalRate →
                      ∀ share,
                        0 ≤ share →
                          share < 1 →
                            ∃ place pair,
                              table.select (share * table.totalRate) =
                                  some pair ∧
                                IntervalHolds table.pairs
                                  (share * table.totalRate) place pair) := by
  refine ⟨?_, ?_⟩
  · intro pairs nonneg
    refine ⟨?_, ?_, ?_, selectEvent_eq_none_iff nonneg⟩
    · intro target targetNonneg below
      exact
        ⟨existsUnique_place nonneg targetNonneg below,
          selectEvent_eq_some_iff nonneg targetNonneg below⟩
    · exact fun target beyond => selectEvent_eq_lastPositive? nonneg beyond
    · exact fun target pair selected => rate_pos_of_selectEvent selected
  · intro table
    refine
      ⟨fun pair => EventTable.mem_pairs_iff,
        EventTable.pairsFrom_ordered 0 table.rows,
        table.size_eq_length_pairs, table.size_eq_total_eligibleCount,
        table.totalRate_eq_cumulative, ?_⟩
    intro nonneg totalPos share shareNonneg shareLt
    have below :
        share * table.totalRate < cumulative table.pairs table.pairs.length := by
      rw [← table.totalRate_eq_cumulative]
      exact mul_lt_of_lt_one_left totalPos shareLt
    exact exists_selected nonneg (mul_nonneg shareNonneg totalPos.le) below

/-- Two processes on three sites; one of the three live pairs has no weight. -/
def weightedTable : EventTable ℚ :=
  { rows := [#[some 1, none, some 0], #[none, some 2, none]] }

theorem selection_follows_weights_boundary :
    (∀ pair ∈ weightedTable.pairs, 0 ≤ pair.rate) ∧
      0 < weightedTable.totalRate ∧
        weightedTable.size = 3 ∧
          weightedTable.totalRate = 3 ∧
            selectEvent weightedTable.pairs (9 / 10) = some ⟨0, 0, 1⟩ ∧
              selectEvent weightedTable.pairs 1 = some ⟨1, 1, 2⟩ ∧
                selectEvent weightedTable.pairs 99 = some ⟨1, 1, 2⟩ ∧
                  selectEvent weightedTable.pairs 0 ≠ none ∧
                    ∃ place pair,
                      weightedTable.select
                            (1 / 3 * weightedTable.totalRate) =
                          some pair ∧
                        IntervalHolds weightedTable.pairs
                          (1 / 3 * weightedTable.totalRate) place pair := by
  have nonneg : ∀ pair ∈ weightedTable.pairs, 0 ≤ pair.rate := by decide +kernel
  have positive : 0 < weightedTable.totalRate := by decide +kernel
  rcases selection_follows_weights (α := ℚ) with ⟨scans, tables⟩
  rcases scans weightedTable.pairs nonneg with ⟨within, beyond, _, nothing⟩
  rcases tables weightedTable with ⟨_, _, sizeEq, _, totalEq, shares⟩
  have first : IntervalHolds weightedTable.pairs (9 / 10) 0 ⟨0, 0, 1⟩ :=
    ⟨rfl, by decide +kernel, by decide +kernel⟩
  have third : IntervalHolds weightedTable.pairs 1 2 ⟨1, 1, 2⟩ :=
    ⟨rfl, by decide +kernel, by decide +kernel⟩
  have somePos : ¬ ∀ pair ∈ weightedTable.pairs, pair.rate = 0 := by
    decide +kernel
  exact
    ⟨nonneg, positive, sizeEq.trans (by decide +kernel),
      totalEq.trans (by decide +kernel),
      ((within (9 / 10) (by decide +kernel) (by decide +kernel)).2 _).mpr
        ⟨0, first⟩,
      ((within 1 (by decide +kernel) (by decide +kernel)).2 _).mpr ⟨2, third⟩,
      (beyond 99 (by decide +kernel)).trans rfl,
      mt (nothing 0).mp somePos,
      shares nonneg positive (1 / 3) (by decide +kernel) (by decide +kernel)⟩

end SurfaceKinetics
