import Mathlib.Algebra.Order.BigOperators.Group.List
import SurfaceKinetics.Proofs.Quantity.Exact
import SurfaceKinetics.Proofs.Simulation.Step

/-!
# The pairs of a table

A table holds its entries row by row; the scan sees them as one list of live pairs,
in the order of processes and sites.  The size and the total rate of a table, which
are added up row by row, are those of the list.
-/

namespace SurfaceKinetics

variable {α : Type}

/-- A pair comes before another one, by its process first and its site then. -/
def LivePair.Precedes (earlier later : LivePair α) : Prop :=
  earlier.process < later.process ∨
    earlier.process = later.process ∧ earlier.site < later.site

namespace EventTable

/-! ## The order of the scan -/

/-- The live pairs of rows whose processes are numbered from a start on. -/
def pairsFrom (start : Nat) (rows : List (Array (Option α))) :
    List (LivePair α) :=
  (rows.zipIdx start).flatMap fun item => rowPairs item.2 item.1

theorem pairs_eq_pairsFrom (table : EventTable α) :
    table.pairs = pairsFrom 0 table.rows :=
  rfl

theorem pairsFrom_append
    (start : Nat)
    (rows others : List (Array (Option α))) :
    pairsFrom start (rows ++ others) =
      pairsFrom start rows ++ pairsFrom (start + rows.length) others := by
  rw [pairsFrom, List.zipIdx_append, List.flatMap_append]
  rfl

theorem pairsFrom_cons
    (start : Nat)
    (row : Array (Option α))
    (rows : List (Array (Option α))) :
    pairsFrom start (row :: rows) =
      rowPairs start row ++ pairsFrom (start + 1) rows :=
  rfl

theorem process_le_of_mem_pairsFrom
    {start : Nat}
    {rows : List (Array (Option α))}
    {pair : LivePair α}
    (member : pair ∈ pairsFrom start rows) :
    start ≤ pair.process := by
  rcases List.mem_flatMap.mp member with ⟨⟨row, process⟩, numbered, paired⟩
  rw [(mem_rowPairs_iff.mp paired).1]
  exact List.le_snd_of_mem_zipIdx numbered

theorem rowPairs_ordered (process : Nat) (row : Array (Option α)) :
    (rowPairs process row).Pairwise LivePair.Precedes := by
  have numbered :
      row.toList.zipIdx.Pairwise fun earlier later => earlier.2 < later.2 := by
    rw [← List.pairwise_map, List.zipIdx_map_snd]
    exact List.pairwise_lt_range'
  refine List.Pairwise.filterMap _ ?_ numbered
  rintro ⟨entry, site⟩ ⟨other, later⟩ before pair paired behind pairedBehind
  rcases Option.map_eq_some_iff.mp paired with ⟨rate, _, rfl⟩
  rcases Option.map_eq_some_iff.mp pairedBehind with ⟨otherRate, _, rfl⟩
  exact Or.inr ⟨rfl, before⟩

/-- The scan visits pairs in the order of processes and, in each, of sites. -/
theorem pairsFrom_ordered (start : Nat) (rows : List (Array (Option α))) :
    (pairsFrom start rows).Pairwise LivePair.Precedes := by
  induction rows generalizing start with
  | nil => exact List.Pairwise.nil
  | cons row rows induction =>
      rw [pairsFrom_cons, List.pairwise_append]
      refine ⟨rowPairs_ordered start row, induction (start + 1), ?_⟩
      intro pair member later laterMember
      have processEq := (mem_rowPairs_iff.mp member).1
      have processLe := process_le_of_mem_pairsFrom laterMember
      exact Or.inl (by omega)

/-! ## Rates -/

theorem map_rate_rowPairs (process : Nat) (row : Array (Option α)) :
    (rowPairs process row).map LivePair.rate = rates row := by
  have forgotten :
      (fun item : Option α × Nat =>
          (item.1.map fun rate =>
            ({ process, site := item.2, rate } : LivePair α)).map
              LivePair.rate) =
        id ∘ Prod.fst := by
    funext item
    rcases item with ⟨_ | rate, site⟩ <;> rfl
  rw [rowPairs, List.map_filterMap, forgotten, ← List.filterMap_map,
    List.zipIdx_map_fst, rates]

theorem map_rate_pairsFrom (start : Nat) (rows : List (Array (Option α))) :
    (pairsFrom start rows).map LivePair.rate = rows.flatMap rates := by
  induction rows generalizing start with
  | nil => rfl
  | cons row rows induction =>
      rw [pairsFrom_cons, List.map_append, map_rate_rowPairs, induction,
        List.flatMap_cons]

theorem size_eq_length_pairs (table : EventTable α) :
    table.size = table.pairs.length := by
  rw [← List.length_map LivePair.rate, pairs_eq_pairsFrom, map_rate_pairsFrom,
    size]
  induction table.rows with
  | nil => rfl
  | cons row rows induction =>
      rw [List.map_cons, total_cons, induction, List.flatMap_cons,
        List.length_append]

theorem size_eq_total_eligibleCount (table : EventTable α) :
    table.size =
      total ((List.range table.rows.length).map table.eligibleCount) := by
  have countsEq :
      (table.rows.map fun row => (rates row).length) =
        (List.range table.rows.length).map table.eligibleCount := by
    apply List.ext_getElem
    · simp
    · intro process _ inside
      have found : process < table.rows.length := by simpa using inside
      simp [eligibleCount, found]
  rw [size, countsEq]

/-- The rates of the rows are those of the live pairs. -/
theorem exists_pair_of_mem_rates
    {table : EventTable α}
    {row : Array (Option α)}
    (rowMember : row ∈ table.rows)
    {rate : α}
    (member : rate ∈ rates row) :
    ∃ pair ∈ table.pairs, pair.rate = rate := by
  rcases List.mem_iff_getElem?.mp rowMember with ⟨process, found⟩
  rcases mem_rates_iff.mp member with ⟨site, entered⟩
  exact
    ⟨⟨process, site, rate⟩, mem_pairs_iff.mpr ⟨row, found, entered⟩, rfl⟩

theorem exists_row_of_mem_pairs
    {table : EventTable α}
    {pair : LivePair α}
    (member : pair ∈ table.pairs) :
    ∃ row ∈ table.rows, pair.rate ∈ rates row := by
  rcases mem_pairs_iff.mp member with ⟨row, found, entered⟩
  exact
    ⟨row, List.mem_of_getElem? found, mem_rates_iff.mpr ⟨pair.site, entered⟩⟩

theorem isEmpty_iff {table : EventTable α} :
    table.isEmpty = true ↔ ∀ pair, pair ∉ table.pairs := by
  rw [isEmpty, List.all_eq_true]
  constructor
  · intro empty pair member
    rcases exists_row_of_mem_pairs member with ⟨row, rowMember, rateMember⟩
    rw [List.isEmpty_iff.mp (empty row rowMember)] at rateMember
    cases rateMember
  · intro none row rowMember
    rw [List.isEmpty_iff, List.eq_nil_iff_forall_not_mem]
    intro rate member
    rcases exists_pair_of_mem_rates rowMember member with ⟨pair, live, _⟩
    exact none pair live

/-! ## Total rates -/

section Exact

variable [ExactQuantity α] {table : EventTable α}

/-- Adding up row by row comes to the sum over all pairs. -/
theorem totalRate_eq_sum (table : EventTable α) :
    table.totalRate = (table.pairs.map LivePair.rate).sum := by
  rw [pairs_eq_pairsFrom, map_rate_pairsFrom, totalRate, Quantity.sum_eq]
  induction table.rows with
  | nil => rfl
  | cons row rows induction =>
      rw [List.map_cons, List.sum_cons, induction, List.flatMap_cons,
        List.sum_append, Quantity.sum_eq]

/-- No rate exceeds the total, where none is negative. -/
theorem rate_le_totalRate
    (nonnegative : ∀ pair ∈ table.pairs, 0 ≤ pair.rate) :
    ∀ pair ∈ table.pairs, pair.rate ≤ table.totalRate := by
  intro pair live
  rw [totalRate_eq_sum]
  exact
    List.single_le_sum (List.forall_mem_map.mpr nonnegative) pair.rate
      (List.mem_map_of_mem live)

/-- Where nothing is live, nothing adds to the total rate. -/
theorem totalRate_le_of_isEmpty (empty : table.isEmpty = true) :
    table.totalRate ≤ Quantity.zero := by
  have nothing : table.pairs = [] :=
    List.eq_nil_iff_forall_not_mem.mpr (isEmpty_iff.mp empty)
  rw [totalRate_eq_sum, nothing, Quantity.zero_eq]
  exact le_refl _

end Exact

end EventTable

end SurfaceKinetics
