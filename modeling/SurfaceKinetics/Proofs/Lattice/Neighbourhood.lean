import SurfaceKinetics.Lattice.Basic

/-!
# Neighbourhoods

The neighbour graph of a lattice is simple and undirected: neighbours lie on the
lattice, no site is its own neighbour, no neighbour is listed twice, and
neighbourhood is mutual.  Mutuality rests on the offsets of a lattice kind being
closed under negation and on an offset being undone by its opposite.
-/

namespace SurfaceKinetics

/-- The opposite of an offset. -/
def oppositeOffset (offset : Int × Int) : Int × Int := (-offset.1, -offset.2)

theorem LatticeKind.opposite_mem_offsets
    (kind : LatticeKind)
    {offset : Int × Int}
    (member : offset ∈ kind.offsets) :
    oppositeOffset offset ∈ kind.offsets := by
  cases kind <;>
    simp only [LatticeKind.offsets, LatticeKind.squareOffsets,
      LatticeKind.triangularOffsets, List.mem_cons, List.not_mem_nil,
      or_false] at member ⊢ <;>
    rcases member with rfl | rfl | rfl | rfl | rfl | rfl <;>
    decide

theorem nodup_eraseDups (numbers : List Nat) : numbers.eraseDups.Nodup := by
  match numbers with
  | [] => simp
  | first :: rest =>
      have shorter :
          (rest.filter fun other => !other == first).length <
            (first :: rest).length :=
        Nat.lt_succ_of_le (List.length_filter_le _ rest)
      rw [List.eraseDups_cons, List.nodup_cons]
      constructor
      · simp
      · exact nodup_eraseDups _
termination_by numbers.length
decreasing_by exact shorter

namespace Grid

variable {grid : Grid}

/-! ## Columns and rows -/

theorem columns_pos {site : Nat} (inside : site < grid.size) :
    0 < grid.columns :=
  Nat.pos_of_mul_pos_right (Nat.zero_lt_of_lt inside)

theorem rows_pos {site : Nat} (inside : site < grid.size) : 0 < grid.rows :=
  Nat.pos_of_mul_pos_left (Nat.zero_lt_of_lt inside)

theorem columnOf_lt {site : Nat} (inside : site < grid.size) :
    grid.columnOf site < grid.columns :=
  Nat.mod_lt site (columns_pos inside)

theorem rowOf_lt {site : Nat} (inside : site < grid.size) :
    grid.rowOf site < grid.rows :=
  Nat.div_lt_of_lt_mul inside

theorem siteAt_lt
    {column row : Nat}
    (columnInside : column < grid.columns)
    (rowInside : row < grid.rows) :
    grid.siteAt column row < grid.size := by
  have rowEnd : row * grid.columns + grid.columns ≤ grid.rows * grid.columns := by
    rw [← Nat.succ_mul]
    exact Nat.mul_le_mul_right grid.columns rowInside
  rw [siteAt, size, Nat.mul_comm grid.columns grid.rows]
  omega

@[simp]
theorem columnOf_siteAt
    {column : Nat}
    (row : Nat)
    (columnInside : column < grid.columns) :
    grid.columnOf (grid.siteAt column row) = column := by
  rw [columnOf, siteAt, Nat.mul_add_mod_self_right,
    Nat.mod_eq_of_lt columnInside]

@[simp]
theorem rowOf_siteAt
    {column : Nat}
    (row : Nat)
    (columnInside : column < grid.columns) :
    grid.rowOf (grid.siteAt column row) = row := by
  have columnsPos : 0 < grid.columns := Nat.zero_lt_of_lt columnInside
  rw [rowOf, siteAt, Nat.mul_comm, Nat.mul_add_div columnsPos,
    Nat.div_eq_of_lt columnInside, Nat.add_zero]

@[simp]
theorem siteAt_columnOf_rowOf (site : Nat) :
    grid.siteAt (grid.columnOf site) (grid.rowOf site) = site :=
  Nat.div_add_mod' site grid.columns

/-! ## Offsets -/

/-- A number moved around a circle. -/
def wrapped (number : Nat) (offset : Int) (length : Nat) : Nat :=
  (((number : Int) + offset) % length).toNat

theorem wrapped_lt
    (number : Nat)
    (offset : Int)
    {length : Nat}
    (lengthPos : 0 < length) :
    wrapped number offset length < length := by
  have nonnegative := Int.emod_nonneg ((number : Int) + offset)
    (b := length) (by omega)
  have bounded := Int.emod_lt_of_pos ((number : Int) + offset)
    (b := length) (by omega)
  rw [wrapped]
  omega

/-- The opposite offset leads back. -/
theorem wrapped_wrapped_neg
    {number length : Nat}
    (inside : number < length)
    (offset : Int) :
    wrapped (wrapped number offset length) (-offset) length = number := by
  have nonnegative := Int.emod_nonneg ((number : Int) + offset)
    (b := length) (by omega)
  have back :
      (((number : Int) + offset) % length + -offset) % length = number := by
    rw [Int.emod_add_emod, Int.add_neg_cancel_right]
    exact Int.emod_eq_of_lt (by omega) (by omega)
  rw [wrapped, wrapped, Int.toNat_of_nonneg nonnegative, back,
    Int.toNat_natCast]

theorem shifted_eq_siteAt (site : Nat) (offset : Int × Int) :
    grid.shifted site offset =
      grid.siteAt
        (wrapped (grid.columnOf site) offset.1 grid.columns)
        (wrapped (grid.rowOf site) offset.2 grid.rows) :=
  rfl

theorem shifted_lt
    {site : Nat}
    (inside : site < grid.size)
    (offset : Int × Int) :
    grid.shifted site offset < grid.size := by
  rw [shifted_eq_siteAt]
  exact
    siteAt_lt
      (wrapped_lt _ _ (columns_pos inside))
      (wrapped_lt _ _ (rows_pos inside))

theorem shifted_opposite
    {site : Nat}
    (inside : site < grid.size)
    (offset : Int × Int) :
    grid.shifted (grid.shifted site offset) (oppositeOffset offset) = site := by
  have columnInside :=
    wrapped_lt (grid.columnOf site) offset.1 (columns_pos inside)
  rw [shifted_eq_siteAt (grid.shifted site offset), shifted_eq_siteAt site,
    columnOf_siteAt _ columnInside, rowOf_siteAt _ columnInside,
    oppositeOffset, wrapped_wrapped_neg (columnOf_lt inside),
    wrapped_wrapped_neg (rowOf_lt inside), siteAt_columnOf_rowOf]

/-! ## Neighbours -/

theorem mem_neighbours_iff {site other : Nat} :
    other ∈ grid.neighbours site ↔
      other ≠ site ∧
        ∃ offset ∈ grid.kind.offsets, grid.shifted site offset = other := by
  simp only [neighbours, List.mem_eraseDups, List.mem_filter, List.mem_map,
    decide_not, Bool.not_eq_true', decide_eq_false_iff_not]
  exact And.comm

theorem neighbour_lt
    {site other : Nat}
    (inside : site < grid.size)
    (member : other ∈ grid.neighbours site) :
    other < grid.size := by
  rcases mem_neighbours_iff.mp member with ⟨_, offset, _, rfl⟩
  exact shifted_lt inside offset

theorem mem_neighbours_of_mem
    {site other : Nat}
    (inside : site < grid.size)
    (member : other ∈ grid.neighbours site) :
    site ∈ grid.neighbours other := by
  rcases mem_neighbours_iff.mp member with ⟨distinct, offset, offsetMember, rfl⟩
  exact
    mem_neighbours_iff.mpr
      ⟨distinct.symm, oppositeOffset offset,
        grid.kind.opposite_mem_offsets offsetMember,
        shifted_opposite inside offset⟩

end Grid

namespace Lattice

variable {lattice : Lattice}

theorem size_eq (lattice : Lattice) : lattice.size = lattice.config.grid.size :=
  lattice.size_sites

theorem mem_neighbours_iff {site other : Nat} :
    other ∈ lattice.neighbours site ↔
      site < lattice.size ∧ other ∈ lattice.config.grid.neighbours site := by
  rw [neighbours]
  split
  · next inside => simp [inside]
  · next outside => simp [outside]

theorem lt_size_of_mem_neighbours
    {site other : Nat}
    (member : other ∈ lattice.neighbours site) :
    other < lattice.size := by
  rcases mem_neighbours_iff.mp member with ⟨inside, gridMember⟩
  rw [size_eq] at inside ⊢
  exact Grid.neighbour_lt inside gridMember

/-- Neighbourhood is mutual. -/
theorem mem_neighbours_comm {site other : Nat} :
    other ∈ lattice.neighbours site ↔ site ∈ lattice.neighbours other := by
  have back :
      ∀ {first second : Nat},
        second ∈ lattice.neighbours first →
          first ∈ lattice.neighbours second := by
    intro first second member
    rcases mem_neighbours_iff.mp member with ⟨inside, gridMember⟩
    refine mem_neighbours_iff.mpr ⟨lt_size_of_mem_neighbours member, ?_⟩
    rw [size_eq] at inside
    exact Grid.mem_neighbours_of_mem inside gridMember
  exact ⟨back, back⟩

/-- No site is its own neighbour. -/
theorem not_mem_neighbours_self (lattice : Lattice) (site : Nat) :
    site ∉ lattice.neighbours site := by
  intro member
  rcases mem_neighbours_iff.mp member with ⟨_, gridMember⟩
  exact (Grid.mem_neighbours_iff.mp gridMember).1 rfl

theorem nodup_neighbours (lattice : Lattice) (site : Nat) :
    (lattice.neighbours site).Nodup := by
  rw [neighbours]
  split
  · exact nodup_eraseDups _
  · exact List.nodup_nil

/-- No kind of lattice has more than six neighbours to a site. -/
theorem length_neighbours_le_six (lattice : Lattice) (site : Nat) :
    (lattice.neighbours site).length ≤ 6 := by
  let grid := lattice.config.grid
  have subset :
      lattice.neighbours site ⊆ grid.kind.offsets.map (grid.shifted site) := by
    intro other member
    have gridMember := (mem_neighbours_iff.mp member).2
    exact List.mem_map.mpr (Grid.mem_neighbours_iff.mp gridMember).2
  have offsetsLe : grid.kind.offsets.length ≤ 6 := by
    cases grid.kind <;> decide
  calc
    (lattice.neighbours site).length ≤
        (grid.kind.offsets.map (grid.shifted site)).length :=
      (lattice.nodup_neighbours site).length_le_of_subset subset
    _ = grid.kind.offsets.length := List.length_map _
    _ ≤ 6 := offsetsLe

end Lattice

end SurfaceKinetics
