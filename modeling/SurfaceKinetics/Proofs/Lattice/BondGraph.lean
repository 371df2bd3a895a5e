import Mathlib.Combinatorics.SimpleGraph.Connectivity.Connected
import Mathlib.Combinatorics.SimpleGraph.DegreeSum
import SurfaceKinetics.Proofs.Lattice.Neighbourhood

/-!
# The graph of bonds

The bonds of a lattice are the unordered pairs of neighbouring sites.  A sum over
the neighbours of all sites meets every bond from both of its ends.

The graph of bonds is connected on every lattice.  Each kind of lattice has the
offsets one column back and one row back, and from a site other than the first one
of them leads to a site with a lower number: the column before, or from the first
column the row before.  On a lattice of one column or one row it is the other one
that does.
-/

namespace SurfaceKinetics

/-! ## Sums over the bonds of a graph -/

section Graph

variable {V : Type} {graph : SimpleGraph V}

/-- What is the same across every edge is the same on connected vertices. -/
theorem eq_of_reachable
    {Value : Type}
    {read : V → Value}
    (same : ∀ {first second : V}, graph.Adj first second → read first = read second)
    {first second : V}
    (reachable : graph.Reachable first second) :
    read first = read second := by
  rcases reachable with ⟨walk⟩
  induction walk with
  | nil => rfl
  | cons step _ induction => exact (same step).trans induction

variable [Fintype V] [DecidableEq V] [DecidableRel graph.Adj]

/-- The edges from a vertex carry the weights of the edges to its neighbours. -/
theorem sum_darts_from (weight : Sym2 V → Nat) (vertex : V) :
    ∑ dart : graph.Dart with dart.fst = vertex, weight dart.edge =
      ∑ other ∈ graph.neighborFinset vertex, weight s(vertex, other) := by
  rw [graph.dart_fst_fiber vertex,
    Finset.sum_image (graph.dartOfNeighborSet_injective vertex).injOn,
    SimpleGraph.neighborFinset_def, ← Finset.sum_set_coe]
  rfl

/-- An edge is directed in two ways. -/
theorem sum_darts_along
    (weight : Sym2 V → Nat)
    {edge : Sym2 V}
    (member : edge ∈ graph.edgeFinset) :
    ∑ dart : graph.Dart with dart.edge = edge, weight dart.edge =
      2 * weight edge := by
  have same :
      ∀ dart ∈ Finset.univ.filter fun dart : graph.Dart => dart.edge = edge,
        weight dart.edge = weight edge := by
    intro dart along
    rw [(Finset.mem_filter.mp along).2]
  rw [Finset.sum_congr rfl same, Finset.sum_const,
    graph.dart_edge_fiber_card edge (SimpleGraph.mem_edgeFinset.mp member),
    smul_eq_mul]

/-- Summed over the neighbours of all vertices, every edge counts twice. -/
theorem sum_sum_neighborFinset (weight : Sym2 V → Nat) :
    ∑ vertex, ∑ other ∈ graph.neighborFinset vertex, weight s(vertex, other) =
      2 * ∑ edge ∈ graph.edgeFinset, weight edge := by
  calc
    ∑ vertex, ∑ other ∈ graph.neighborFinset vertex, weight s(vertex, other) =
        ∑ dart : graph.Dart, weight dart.edge := by
      rw [← Finset.sum_fiberwise Finset.univ fun dart : graph.Dart => dart.fst]
      exact Finset.sum_congr rfl fun vertex _ => (sum_darts_from weight vertex).symm
    _ = ∑ edge ∈ graph.edgeFinset, 2 * weight edge := by
      have edgeMem :
          ∀ dart ∈ (Finset.univ : Finset graph.Dart),
            dart.edge ∈ graph.edgeFinset :=
        fun dart _ => SimpleGraph.mem_edgeFinset.mpr dart.edge_mem
      rw [← Finset.sum_fiberwise_of_maps_to edgeMem]
      exact Finset.sum_congr rfl fun edge member => sum_darts_along weight member
    _ = 2 * ∑ edge ∈ graph.edgeFinset, weight edge := (Finset.mul_sum _ _ 2).symm

end Graph

/-! ## One step back -/

theorem LatticeKind.back_mem_offsets (kind : LatticeKind) :
    (-1, 0) ∈ kind.offsets ∧ (0, -1) ∈ kind.offsets := by
  cases kind <;> decide

namespace Grid

variable {grid : Grid}

theorem wrapped_zero {number length : Nat} (inside : number < length) :
    wrapped number 0 length = number := by
  rw [wrapped, Int.add_zero, Int.emod_eq_of_lt (by omega) (by omega),
    Int.toNat_natCast]

/-- One step back from a number other than the first does not wrap around. -/
theorem wrapped_neg_one
    {number length : Nat}
    (inside : number < length)
    (positive : 0 < number) :
    wrapped number (-1) length = number - 1 := by
  rw [wrapped, Int.emod_eq_of_lt (by omega) (by omega)]
  omega

/-- From a column other than the first, the column before is at a lower site. -/
theorem shifted_column_back_lt
    {site : Nat}
    (inside : site < grid.size)
    (positive : 0 < grid.columnOf site) :
    grid.shifted site (-1, 0) < site := by
  have siteEq : grid.rowOf site * grid.columns + grid.columnOf site = site :=
    siteAt_columnOf_rowOf site
  rw [shifted_eq_siteAt, wrapped_neg_one (columnOf_lt inside) positive,
    wrapped_zero (rowOf_lt inside), siteAt]
  omega

/-- From a row other than the first, the row before is at a lower site. -/
theorem shifted_row_back_lt
    {site : Nat}
    (inside : site < grid.size)
    (positive : 0 < grid.rowOf site) :
    grid.shifted site (0, -1) < site := by
  have siteEq : grid.rowOf site * grid.columns + grid.columnOf site = site :=
    siteAt_columnOf_rowOf site
  have rowsLt :
      (grid.rowOf site - 1) * grid.columns < grid.rowOf site * grid.columns :=
    Nat.mul_lt_mul_of_pos_right (by omega) (columns_pos inside)
  rw [shifted_eq_siteAt, wrapped_zero (columnOf_lt inside),
    wrapped_neg_one (rowOf_lt inside) positive, siteAt]
  omega

/-- Every site but the first has a neighbour with a lower number. -/
theorem exists_lower_neighbour
    {site : Nat}
    (inside : site < grid.size)
    (positive : 0 < site) :
    ∃ other ∈ grid.neighbours site, other < site := by
  have listed := grid.kind.back_mem_offsets
  have neighbour :
      ∀ offset ∈ grid.kind.offsets,
        grid.shifted site offset < site →
          ∃ other ∈ grid.neighbours site, other < site := by
    intro offset member lower
    exact
      ⟨grid.shifted site offset,
        mem_neighbours_iff.mpr ⟨lower.ne, offset, member, rfl⟩, lower⟩
  by_cases first : grid.columnOf site = 0
  · have rowPos : 0 < grid.rowOf site := by
      refine Nat.pos_of_ne_zero fun rowEq => positive.ne' ?_
      rw [← grid.siteAt_columnOf_rowOf site, first, rowEq, siteAt, Nat.zero_mul]
    exact neighbour (0, -1) listed.2 (shifted_row_back_lt inside rowPos)
  · exact
      neighbour (-1, 0) listed.1
        (shifted_column_back_lt inside (Nat.pos_of_ne_zero first))

end Grid

/-! ## The bonds of a lattice -/

namespace Lattice

variable {lattice : Lattice}

/-- The sites of a lattice with an edge for each bond. -/
def bondGraph (lattice : Lattice) : SimpleGraph (Fin lattice.size) where
  Adj site other := (other : Nat) ∈ lattice.neighbours site
  symm := ⟨fun _ _ => lattice.mem_neighbours_comm.mp⟩
  loopless := ⟨fun site => lattice.not_mem_neighbours_self site⟩

instance (lattice : Lattice) : DecidableRel lattice.bondGraph.Adj :=
  fun site other =>
    inferInstanceAs (Decidable ((other : Nat) ∈ lattice.neighbours site))

theorem bondGraph_adj_iff {site other : Fin lattice.size} :
    lattice.bondGraph.Adj site other ↔ (other : Nat) ∈ lattice.neighbours site :=
  Iff.rfl

/-- Every site but the first has a bond to a site with a lower number. -/
theorem exists_lower_bond
    (site : Fin lattice.size)
    (positive : 0 < (site : Nat)) :
    ∃ other : Fin lattice.size, other < site ∧ lattice.bondGraph.Adj site other := by
  have gridInside : (site : Nat) < lattice.config.grid.size :=
    lattice.size_eq ▸ site.isLt
  rcases Grid.exists_lower_neighbour gridInside positive with ⟨other, member, lower⟩
  have bonded : other ∈ lattice.neighbours site :=
    mem_neighbours_iff.mpr ⟨site.isLt, member⟩
  exact ⟨⟨other, lower.trans site.isLt⟩, lower, bonded⟩

/-- Any two sites are linked by bonds. -/
theorem bondGraph_preconnected (lattice : Lattice) :
    lattice.bondGraph.Preconnected := by
  -- By induction on its number, every site is linked to the first one.
  have linked :
      ∀ number, ∀ inside : number < lattice.size,
        lattice.bondGraph.Reachable ⟨number, inside⟩
          ⟨0, Nat.zero_lt_of_lt inside⟩ := by
    intro number
    induction number using Nat.strong_induction_on with
    | _ number induction =>
        intro inside
        rcases Nat.eq_zero_or_pos number with rfl | positive
        · exact .rfl
        · rcases exists_lower_bond ⟨number, inside⟩ positive with
            ⟨other, lower, bonded⟩
          exact bonded.reachable.trans (induction other lower other.isLt)
  intro first second
  exact (linked first first.isLt).trans (linked second second.isLt).symm

theorem map_neighborFinset (site : Fin lattice.size) :
    (lattice.bondGraph.neighborFinset site).map Fin.valEmbedding =
      (lattice.neighbours site).toFinset := by
  ext other
  simp only [Finset.mem_map, SimpleGraph.mem_neighborFinset, bondGraph_adj_iff,
    Fin.valEmbedding_apply, List.mem_toFinset]
  constructor
  · rintro ⟨inside, member, rfl⟩
    exact member
  · intro member
    exact ⟨⟨other, lt_size_of_mem_neighbours member⟩, member, rfl⟩

/-- The list of neighbours has every other end of a bond once. -/
theorem sum_map_neighbours (site : Fin lattice.size) (value : Nat → Nat) :
    ((lattice.neighbours site).map value).sum =
      ∑ other ∈ lattice.bondGraph.neighborFinset site, value other := by
  rw [← List.sum_toFinset value (lattice.nodup_neighbours site),
    ← map_neighborFinset, Finset.sum_map]
  rfl

end Lattice

end SurfaceKinetics
