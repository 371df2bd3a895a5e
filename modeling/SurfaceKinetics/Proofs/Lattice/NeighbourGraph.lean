import Mathlib.Data.Int.ModEq
import Mathlib.Data.List.Nodup
import SurfaceKinetics.Proofs.Lattice.Neighbourhood

/-!
# The neighbour graph

A grid lies on a torus: a site is at an offset from another one when their columns
and rows differ by the offset modulo the numbers of columns and rows.  The
neighbours of a site are the sites at the offsets of the lattice kind, the site
itself excepted.

On a grid of one or two columns or rows different offsets may lead to one site, or
back to the site itself.  From three columns and rows on they do not, since the
offsets of a lattice kind are distinct, go one step at most, and none of them stays
in place; so every site has as many neighbours as its kind has offsets.
-/

namespace SurfaceKinetics

/-! ## Offsets -/

namespace LatticeKind

theorem nodup_offsets (kind : LatticeKind) : kind.offsets.Nodup := by
  cases kind <;> decide

theorem zero_notMem_offsets (kind : LatticeKind) : (0, 0) ∉ kind.offsets := by
  cases kind <;> decide

/-- An offset goes one column and one row away at most. -/
theorem natAbs_le_one_of_mem_offsets
    {kind : LatticeKind}
    {offset : Int × Int}
    (member : offset ∈ kind.offsets) :
    offset.1.natAbs ≤ 1 ∧ offset.2.natAbs ≤ 1 := by
  have short :
      ∀ offset ∈ kind.offsets, offset.1.natAbs ≤ 1 ∧ offset.2.natAbs ≤ 1 := by
    cases kind <;> decide
  exact short offset member

/-- The number of neighbours of a site on a grid that is wide enough. -/
def valency : LatticeKind → Nat
  | faceCentred => 6
  | _ => 4

theorem length_offsets (kind : LatticeKind) :
    kind.offsets.length = kind.valency := by
  cases kind <;> rfl

end LatticeKind

/-- Around a circle of three or more, only one single step leads to a number. -/
theorem step_unique
    {length : Nat}
    (long : 3 ≤ length)
    {number other first second : Int}
    (firstShort : first.natAbs ≤ 1)
    (secondShort : second.natAbs ≤ 1)
    (firstLeads : other ≡ number + first [ZMOD length])
    (secondLeads : other ≡ number + second [ZMOD length]) :
    first = second := by
  have congruent : first ≡ second [ZMOD length] :=
    Int.ModEq.add_left_cancel' number (firstLeads.symm.trans secondLeads)
  have divides : (length : Int) ∣ second - first :=
    Int.modEq_iff_dvd.mp congruent
  have shorter : (second - first).natAbs < (length : Int).natAbs := by omega
  have nothing := Int.eq_zero_of_dvd_of_natAbs_lt_natAbs divides shorter
  omega

namespace Grid

variable {grid : Grid}

/-! ## Sites at an offset -/

theorem wrapped_cast
    (number : Nat)
    (offset : Int)
    {length : Nat}
    (lengthPos : 0 < length) :
    (wrapped number offset length : Int) = (number + offset) % length := by
  rw [wrapped, Int.toNat_of_nonneg (Int.emod_nonneg _ (by omega))]

/-- Moving a number leads to the one number of the circle that is congruent. -/
theorem wrapped_eq_iff
    {number other length : Nat}
    (inside : other < length)
    (offset : Int) :
    wrapped number offset length = other ↔
      (other : Int) ≡ number + offset [ZMOD length] := by
  have lengthPos : 0 < length := Nat.zero_lt_of_lt inside
  have otherMod : (other : Int) % length = other :=
    Int.emod_eq_of_lt (by omega) (by omega)
  rw [← Int.natCast_inj, wrapped_cast number offset lengthPos, Int.ModEq,
    otherMod, eq_comm]

/-- A site is at an offset from another one, around the edges of the grid. -/
structure LiesAt
    (grid : Grid)
    (site : Nat)
    (offset : Int × Int)
    (other : Nat) : Prop where
  column :
    (grid.columnOf other : Int) ≡
      grid.columnOf site + offset.1 [ZMOD grid.columns]
  row : (grid.rowOf other : Int) ≡ grid.rowOf site + offset.2 [ZMOD grid.rows]

theorem siteAt_eq_iff
    {column row other : Nat}
    (inside : column < grid.columns) :
    grid.siteAt column row = other ↔
      column = grid.columnOf other ∧ row = grid.rowOf other := by
  constructor
  · rintro rfl
    exact
      ⟨(columnOf_siteAt row inside).symm, (rowOf_siteAt row inside).symm⟩
  · rintro ⟨rfl, rfl⟩
    exact siteAt_columnOf_rowOf other

theorem shifted_eq_iff
    {site other : Nat}
    (inside : other < grid.size)
    (offset : Int × Int) :
    grid.shifted site offset = other ↔ grid.LiesAt site offset other := by
  rw [shifted_eq_siteAt,
    siteAt_eq_iff (wrapped_lt _ _ (columns_pos inside)),
    wrapped_eq_iff (columnOf_lt inside), wrapped_eq_iff (rowOf_lt inside)]
  exact ⟨fun ⟨column, row⟩ => ⟨column, row⟩, fun ⟨column, row⟩ => ⟨column, row⟩⟩

/-- The neighbours of a site are the other sites at the offsets of its kind. -/
theorem mem_neighbours_iff_liesAt
    {site other : Nat}
    (inside : site < grid.size) :
    other ∈ grid.neighbours site ↔
      other < grid.size ∧
        other ≠ site ∧ ∃ offset ∈ grid.kind.offsets, grid.LiesAt site offset other := by
  constructor
  · intro member
    have otherInside := neighbour_lt inside member
    rcases mem_neighbours_iff.mp member with ⟨distinct, offset, listed, shift⟩
    exact
      ⟨otherInside, distinct, offset, listed,
        (shifted_eq_iff otherInside offset).mp shift⟩
  · rintro ⟨otherInside, distinct, offset, listed, lies⟩
    exact
      mem_neighbours_iff.mpr
        ⟨distinct, offset, listed, (shifted_eq_iff otherInside offset).mpr lies⟩

theorem nodup_neighbours (grid : Grid) (site : Nat) :
    (grid.neighbours site).Nodup :=
  nodup_eraseDups _

/-! ## The number of neighbours -/

theorem liesAt_zero (grid : Grid) (site : Nat) : grid.LiesAt site (0, 0) site where
  column := by rw [Int.add_zero]
  row := by rw [Int.add_zero]

section Wide

variable
    {site : Nat}
    (inside : site < grid.size)
    (wide : 3 ≤ grid.columns)
    (high : 3 ≤ grid.rows)

include inside wide high

/-- On a wide grid different single steps lead to different sites. -/
theorem eq_of_shifted_eq
    {first second : Int × Int}
    (firstShort : first.1.natAbs ≤ 1 ∧ first.2.natAbs ≤ 1)
    (secondShort : second.1.natAbs ≤ 1 ∧ second.2.natAbs ≤ 1)
    (equal : grid.shifted site first = grid.shifted site second) :
    first = second := by
  have firstLies :=
    (shifted_eq_iff (shifted_lt inside second) first).mp equal
  have secondLies :=
    (shifted_eq_iff (shifted_lt inside second) second).mp rfl
  exact
    Prod.ext
      (step_unique wide firstShort.1 secondShort.1 firstLies.column
        secondLies.column)
      (step_unique high firstShort.2 secondShort.2 firstLies.row secondLies.row)

theorem length_neighbours :
    (grid.neighbours site).length = grid.kind.valency := by
  have nodup : (grid.kind.offsets.map (grid.shifted site)).Nodup := by
    refine grid.kind.nodup_offsets.map_on ?_
    intro first firstListed second secondListed equal
    exact
      eq_of_shifted_eq inside wide high
        (LatticeKind.natAbs_le_one_of_mem_offsets firstListed)
        (LatticeKind.natAbs_le_one_of_mem_offsets secondListed)
        equal
  -- No offset leads back, since staying in place would be the offset zero.
  have elsewhere :
      ∀ offset ∈ grid.kind.offsets, grid.shifted site offset ≠ site := by
    intro offset listed stays
    have inPlace : grid.shifted site (0, 0) = site :=
      (shifted_eq_iff inside (0, 0)).mpr (grid.liesAt_zero site)
    have offsetEq :=
      eq_of_shifted_eq inside wide high
        (LatticeKind.natAbs_le_one_of_mem_offsets listed) (by decide)
        (stays.trans inPlace.symm)
    exact grid.kind.zero_notMem_offsets (offsetEq ▸ listed)
  have perm :
      (grid.neighbours site).Perm
        (grid.kind.offsets.map (grid.shifted site)) := by
    refine (List.perm_ext_iff_of_nodup (grid.nodup_neighbours site) nodup).mpr ?_
    intro other
    rw [mem_neighbours_iff, List.mem_map]
    refine and_iff_right_of_imp ?_
    rintro ⟨offset, listed, rfl⟩
    exact elsewhere offset listed
  rw [perm.length_eq, List.length_map, LatticeKind.length_offsets]

end Wide

end Grid

/--
The neighbours of a lattice form a simple undirected graph: no site has a neighbour
twice or beyond the lattice, none is its own neighbour, and neighbourhood is mutual.
The neighbours are the other sites at the offsets of the lattice kind around the
torus, and on a lattice of at least three columns and rows there is one for each
offset.
-/
theorem neighbour_graph_simple
    (grid : Grid)
    {site : Nat}
    (inside : site < grid.size) :
    (grid.neighbours site).Nodup ∧
      site ∉ grid.neighbours site ∧
        (∀ other ∈ grid.neighbours site, other < grid.size) ∧
          (∀ other < grid.size,
            (other ∈ grid.neighbours site ↔ site ∈ grid.neighbours other)) ∧
            (∀ other,
              other ∈ grid.neighbours site ↔
                other < grid.size ∧
                  other ≠ site ∧
                    ∃ offset ∈ grid.kind.offsets,
                      grid.LiesAt site offset other) ∧
              (3 ≤ grid.columns → 3 ≤ grid.rows →
                (grid.neighbours site).length = grid.kind.valency) ∧
                ∀ lattice : Lattice,
                  lattice.config.grid = grid →
                    lattice.neighbours site = grid.neighbours site := by
  refine ⟨grid.nodup_neighbours site, ?_, ?_, ?_, ?_, ?_, ?_⟩
  · intro member
    exact (Grid.mem_neighbours_iff.mp member).1 rfl
  · intro other member
    exact Grid.neighbour_lt inside member
  · intro other otherInside
    exact
      ⟨Grid.mem_neighbours_of_mem inside,
        Grid.mem_neighbours_of_mem otherInside⟩
  · intro other
    exact Grid.mem_neighbours_iff_liesAt inside
  · intro wide high
    exact Grid.length_neighbours inside wide high
  · rintro lattice rfl
    rw [← lattice.size_eq] at inside
    rw [Lattice.neighbours, if_pos inside]

/-- A sheared grid that is wide enough for all six neighbours. -/
def wideShearedGrid : Grid := { kind := .faceCentred, columns := 3, rows := 4 }

/-- A sheared grid on which all six offsets lead to one site or back. -/
def narrowShearedGrid : Grid := { kind := .faceCentred, columns := 2, rows := 1 }

theorem neighbour_graph_simple_sheared :
    (4 < wideShearedGrid.size ∧
      (wideShearedGrid.neighbours 4).Nodup ∧
        (wideShearedGrid.neighbours 4).length = 6 ∧
          (2 ∈ wideShearedGrid.neighbours 4 ↔
            4 ∈ wideShearedGrid.neighbours 2) ∧
            wideShearedGrid.LiesAt 4 (1, -1) 2) ∧
      0 < narrowShearedGrid.size ∧
        narrowShearedGrid.neighbours 0 = [1] ∧
          0 ∉ narrowShearedGrid.neighbours 0 ∧
            (narrowShearedGrid.neighbours 0).Nodup := by
  have wideInside : 4 < wideShearedGrid.size := by decide
  have narrowInside : 0 < narrowShearedGrid.size := by decide
  rcases neighbour_graph_simple wideShearedGrid wideInside with
    ⟨wideNodup, _, _, returned, _, lengthEq, _⟩
  rcases neighbour_graph_simple narrowShearedGrid narrowInside with
    ⟨narrowNodup, apart, _⟩
  exact
    ⟨⟨wideInside, wideNodup, lengthEq (by decide) (by decide),
        returned 2 (by decide), ⟨by decide, by decide⟩⟩,
      narrowInside, by decide, apart, narrowNodup⟩

end SurfaceKinetics
