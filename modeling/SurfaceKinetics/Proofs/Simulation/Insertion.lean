import Mathlib.Algebra.BigOperators.Group.List.Basic
import Mathlib.Data.List.InsertIdx
import SurfaceKinetics.Proofs.Simulation.Pairs

/-!
# Tables with one more row

A row that is inserted into an event table moves the rows after it one place on.
When all rates of the row are zero, the total rate stays what it was, and every
target selects the pair that it selected before, under its new number.
-/

namespace SurfaceKinetics

/-! ## Numbers after an insertion -/

/-- The place of an element after another one has been inserted. -/
def movedOn (place index : Nat) : Nat :=
  if index < place then index else index + 1

theorem movedOn_of_lt {place index : Nat} (before : index < place) :
    movedOn place index = index :=
  if_pos before

theorem movedOn_of_le {place index : Nat} (behind : place ≤ index) :
    movedOn place index = index + 1 :=
  if_neg (Nat.not_lt_of_le behind)

section Lists

variable {β : Type}

/-- Every element is found at the place to which it has moved. -/
theorem getElem?_insertIdx_movedOn
    (place index : Nat)
    (items : List β)
    (item : β) :
    (items.insertIdx place item)[movedOn place index]? = items[index]? := by
  rcases Nat.lt_or_ge index place with before | behind
  · rw [movedOn_of_lt before, List.getElem?_insertIdx_of_lt before]
  · rw [movedOn_of_le behind,
      List.getElem?_insertIdx_of_gt (Nat.lt_succ_of_le behind),
      Nat.succ_sub_one]

/-- An element may be changed before or after another one is inserted. -/
theorem modify_insertIdx_movedOn
    (place index : Nat)
    (items : List β)
    (item : β)
    (change : β → β) :
    (items.insertIdx place item).modify (movedOn place index) change =
      (items.modify index change).insertIdx place item := by
  induction place generalizing items index with
  | zero =>
      rw [movedOn_of_le index.zero_le, List.insertIdx_zero,
        List.insertIdx_zero, List.modify_succ_cons]
  | succ place induction =>
      cases items with
      | nil => simp
      | cons first rest =>
          cases index with
          | zero => simp [movedOn_of_lt]
          | succ index =>
              have moved :
                  movedOn (place + 1) (index + 1) = movedOn place index + 1 := by
                simp only [movedOn, Nat.add_lt_add_iff_right]
                split <;> rfl
              rw [moved, List.insertIdx_succ_cons, List.modify_succ_cons,
                List.modify_succ_cons, List.insertIdx_succ_cons, induction]

/-- A list is cut where an element is inserted. -/
theorem exists_append_of_insertIdx
    {place : Nat}
    {items : List β}
    (inside : place ≤ items.length) :
    ∃ before after,
      items = before ++ after ∧
        before.length = place ∧
          ∀ item, items.insertIdx place item = before ++ item :: after := by
  refine
    ⟨items.take place, items.drop place, (items.take_append_drop place).symm,
      List.length_take_of_le inside, ?_⟩
  intro item
  induction place generalizing items with
  | zero => simp
  | succ place induction =>
      cases items with
      | nil => cases inside
      | cons first rest =>
          rw [List.insertIdx_succ_cons, List.take_succ_cons,
            List.drop_succ_cons, induction (Nat.le_of_succ_le_succ inside),
            List.cons_append]

end Lists

variable {α : Type}

/-- A pair under the number that its process has after an insertion. -/
def LivePair.movedOn (place : Nat) (pair : LivePair α) : LivePair α :=
  { pair with process := SurfaceKinetics.movedOn place pair.process }

/-! ## Scans -/

section Scans

variable [Quantity α]

/-- A scan sees nothing of a pair but its rate. -/
theorem selectFrom_map
    {change : LivePair α → LivePair α}
    (rateEq : ∀ pair, (change pair).rate = pair.rate)
    (target cumulative : α)
    (last : Option (LivePair α))
    (pairs : List (LivePair α)) :
    selectFrom target cumulative (last.map change) (pairs.map change) =
      (selectFrom target cumulative last pairs).map change := by
  induction pairs generalizing cumulative last with
  | nil => rfl
  | cons first rest induction =>
      rw [List.map_cons, selectFrom, selectFrom, rateEq]
      split
      · exact induction cumulative last
      · split
        · rfl
        · exact induction (cumulative + first.rate) (some first)

/-- A scan passes over pairs whose rates are at most zero. -/
theorem selectFrom_append_idle
    {idle : List (LivePair α)}
    (ratesLe : ∀ pair ∈ idle, pair.rate ≤ Quantity.zero)
    (target cumulative : α)
    (last : Option (LivePair α))
    (earlier later : List (LivePair α)) :
    selectFrom target cumulative last (earlier ++ (idle ++ later)) =
      selectFrom target cumulative last (earlier ++ later) := by
  induction earlier generalizing cumulative last with
  | nil =>
      induction idle with
      | nil => rfl
      | cons first rest induction =>
          rcases List.forall_mem_cons.mp ratesLe with ⟨here, there⟩
          rw [List.nil_append, List.cons_append, selectFrom, if_pos here]
          exact induction there
  | cons first rest induction =>
      rw [List.cons_append, List.cons_append, selectFrom, selectFrom]
      split
      · exact induction cumulative last
      · split
        · rfl
        · exact induction (cumulative + first.rate) (some first)

end Scans

namespace EventTable

/-! ## Moved pairs -/

theorem map_movedOn_rowPairs
    (place process : Nat)
    (row : Array (Option α)) :
    (rowPairs process row).map (LivePair.movedOn place) =
      rowPairs (movedOn place process) row := by
  rw [rowPairs, rowPairs, List.map_filterMap]
  apply List.filterMap_congr
  intro item _
  rw [Option.map_map]
  rfl

/-- Rows before an insertion keep their numbers. -/
theorem map_movedOn_pairsFrom_of_le
    {place start : Nat}
    {rows : List (Array (Option α))}
    (before : start + rows.length ≤ place) :
    (pairsFrom start rows).map (LivePair.movedOn place) =
      pairsFrom start rows := by
  induction rows generalizing start with
  | nil => rfl
  | cons row rows induction =>
      rw [List.length_cons] at before
      rw [pairsFrom_cons, List.map_append, map_movedOn_rowPairs,
        movedOn_of_lt (by omega), induction (by omega)]

/-- Rows behind an insertion have the next numbers. -/
theorem map_movedOn_pairsFrom_of_ge
    {place start : Nat}
    (behind : place ≤ start)
    (rows : List (Array (Option α))) :
    (pairsFrom start rows).map (LivePair.movedOn place) =
      pairsFrom (start + 1) rows := by
  induction rows generalizing start with
  | nil => rfl
  | cons row rows induction =>
      rw [pairsFrom_cons, List.map_append, map_movedOn_rowPairs,
        movedOn_of_le behind, induction (Nat.le_succ_of_le behind),
        pairsFrom_cons]

/-! ## Inserted rows -/

/-- A table with a row inserted. -/
def insertRow
    (table : EventTable α)
    (place : Nat)
    (row : Array (Option α)) :
    EventTable α :=
  { rows := table.rows.insertIdx place row }

/-- The pairs of an inserted row stand between the moved pairs of the others. -/
theorem exists_pairs_insertRow
    {table : EventTable α}
    {place : Nat}
    (inside : place ≤ table.rows.length)
    (row : Array (Option α)) :
    ∃ earlier later,
      table.pairs.map (LivePair.movedOn place) = earlier ++ later ∧
        (table.insertRow place row).pairs =
          earlier ++ (rowPairs place row ++ later) := by
  rcases exists_append_of_insertIdx inside with
    ⟨before, after, rowsEq, rfl, inserted⟩
  refine ⟨pairsFrom 0 before, pairsFrom (before.length + 1) after, ?_, ?_⟩
  · rw [pairs_eq_pairsFrom, rowsEq, pairsFrom_append, List.map_append,
      Nat.zero_add, map_movedOn_pairsFrom_of_le (by omega),
      map_movedOn_pairsFrom_of_ge (Nat.le_refl _)]
  · rw [pairs_eq_pairsFrom, insertRow, inserted, pairsFrom_append,
      Nat.zero_add, pairsFrom_cons]

/-- A table with an inserted row is empty only if it was empty before. -/
theorem isEmpty_of_insertRow
    {table : EventTable α}
    {place : Nat}
    (inside : place ≤ table.rows.length)
    {row : Array (Option α)}
    (empty : (table.insertRow place row).isEmpty = true) :
    table.isEmpty = true := by
  rw [isEmpty, List.all_eq_true] at empty ⊢
  intro other member
  exact empty other ((List.mem_insertIdx inside).mpr (Or.inr member))

section Idle

variable
    {β : Type}
    [ExactQuantity β]
    {table : EventTable β}
    {place : Nat}
    (inside : place ≤ table.rows.length)
    {row : Array (Option β)}
    (idle : ∀ rate ∈ rates row, rate = 0)

include inside idle

/-- A row of zeros adds nothing to the total rate. -/
theorem totalRate_insertRow :
    (table.insertRow place row).totalRate = table.totalRate := by
  have nothing : Quantity.sum (rates row) = 0 := by
    rw [Quantity.sum_eq]
    exact List.sum_eq_zero idle
  rw [totalRate, insertRow, List.map_insertIdx, nothing, totalRate,
    Quantity.sum_eq, Quantity.sum_eq]
  have placed :
      place ≤ (table.rows.map fun row => Quantity.sum (rates row)).length := by
    rw [List.length_map]
    exact inside
  rw [(List.perm_insertIdx 0 _ placed).sum_eq, List.sum_cons, zero_add]

/-- A row of zeros does not change what a target selects. -/
theorem select_insertRow (target : β) :
    (table.insertRow place row).select target =
      (table.select target).map (LivePair.movedOn place) := by
  rcases exists_pairs_insertRow inside row with
    ⟨earlier, later, moved, inserted⟩
  have ratesLe :
      ∀ pair ∈ rowPairs place row, pair.rate ≤ Quantity.zero := by
    intro pair member
    rcases mem_rowPairs_iff.mp member with ⟨_, found⟩
    have rateEq : pair.rate = 0 := idle _ (mem_rates_iff.mpr ⟨_, found⟩)
    rw [Quantity.zero_eq]
    exact le_of_eq rateEq
  calc
    (table.insertRow place row).select target =
        selectFrom target Quantity.zero none
          (earlier ++ (rowPairs place row ++ later)) := by
      rw [select, selectEvent, inserted]
    _ = selectFrom target Quantity.zero none (earlier ++ later) :=
      selectFrom_append_idle ratesLe target _ none earlier later
    _ = (table.select target).map (LivePair.movedOn place) := by
      rw [← moved]
      have rateEq :
          ∀ pair : LivePair β, (pair.movedOn place).rate = pair.rate :=
        fun _ => rfl
      exact selectFrom_map rateEq target _ none table.pairs

end Idle

end EventTable

end SurfaceKinetics
