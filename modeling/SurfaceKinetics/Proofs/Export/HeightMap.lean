import SurfaceKinetics.Export.HeightMap
import SurfaceKinetics.Proofs.Decimal.Letters
import SurfaceKinetics.Proofs.Export.Sheet
import SurfaceKinetics.Proofs.Lattice.Frame
import SurfaceKinetics.Proofs.Lattice.Neighbourhood

/-!
# Reading a height map back

The lines of a height map are cut from the list of all sites, while the rows of heights
are looked up by column and row.  Sites are numbered row by row, so both are the same
grid, whatever its shape.

Whole numbers are written with digits and a minus, so any other character delimits them,
and the grid that is read back sets the heights of all sites.
-/

namespace SurfaceKinetics

/-! ## Heights by site -/

namespace Lattice

variable (lattice : Lattice)

theorem length_heights : lattice.heights.length = lattice.size := by
  rw [heights, List.length_map, Array.length_toList, size]

theorem getElem?_heights (site : Nat) :
    lattice.heights[site]? = (lattice.site? site).map Site.height := by
  rw [heights, List.getElem?_map, Array.getElem?_toList, site?]

theorem heights_modify_height (site : Nat) (height : Int) :
    (lattice.modify site fun state => { state with height }).heights =
      lattice.heights.set site height := by
  apply List.ext_getElem?
  intro other
  rw [getElem?_heights, site?_modify, List.getElem?_set, length_heights]
  by_cases same : site = other
  · subst same
    rw [if_pos rfl, if_pos rfl, Option.map_map]
    split
    · next inside =>
      rw [site?, Array.getElem?_eq_getElem inside]
      rfl
    · next outside =>
      rw [lattice.site?_eq_none_iff.mpr (Nat.le_of_not_lt outside)]
      rfl
  · rw [if_neg same, if_neg same, getElem?_heights]

/-- Sets the heights of the sites from a number on, one after the other. -/
def setHeightsFrom (lattice : Lattice) : Nat → List Int → Lattice
  | _, [] => lattice
  | site, height :: rest =>
    (lattice.modify site fun state => { state with height }).setHeightsFrom (site + 1)
      rest

theorem heights_setHeightsFrom
    {first : Nat}
    {heights : List Int}
    (fits : first + heights.length = lattice.size) :
    (lattice.setHeightsFrom first heights).heights =
      lattice.heights.take first ++ heights := by
  induction heights generalizing lattice first with
  | nil =>
      have whole : lattice.heights.length ≤ first := by
        rw [length_heights]
        exact Nat.le_of_eq fits.symm
      rw [setHeightsFrom, List.append_nil, List.take_of_length_le whole]
  | cons height rest induction =>
      rw [List.length_cons] at fits
      have inside : first < lattice.heights.length := by
        rw [length_heights]
        omega
      rw [setHeightsFrom, induction _ (by rw [size_modify]; omega),
        heights_modify_height, List.set_eq_take_append_cons_drop, if_pos inside]
      simp [List.take_append, inside.le]

/-! ## Heights by column and row -/

/-- In every column and row of the grid there is a site. -/
theorem exists_siteAt
    {column row : Nat}
    (columnLt : column < lattice.config.columns)
    (rowLt : row < lattice.config.rows) :
    ∃ state, lattice.site? (lattice.config.grid.siteAt column row) = some state := by
  have inside : lattice.config.grid.siteAt column row < lattice.size := by
    rw [size_eq]
    exact Grid.siteAt_lt columnLt rowLt
  exact ⟨_, Array.getElem?_eq_getElem inside⟩

theorem length_heightMap : lattice.heightMap.length = lattice.config.rows := by
  rw [heightMap, List.length_map, List.length_range]

theorem length_of_mem_heightMap
    {row : List Int}
    (member : row ∈ lattice.heightMap) :
    row.length = lattice.config.columns := by
  rcases List.mem_map.mp member with ⟨_, _, rfl⟩
  rw [List.length_map, List.length_range]

theorem getElem?_heightMap
    {column row : Nat}
    (columnLt : column < lattice.config.columns)
    (rowLt : row < lattice.config.rows) :
    (lattice.heightMap[row]?).bind (·[column]?) =
      (lattice.site? (lattice.config.grid.siteAt column row)).map Site.height := by
  rcases lattice.exists_siteAt columnLt rowLt with ⟨state, found⟩
  rw [heightMap, List.getElem?_map, List.getElem?_range rowLt, Option.map_some,
    Option.bind_some, List.getElem?_map, List.getElem?_range columnLt, Option.map_some,
    found]
  rfl

end Lattice

namespace HeightMap

/-! ## The grid of heights -/

/-- Full rows, put together again, are the heights that they are cut from. -/
theorem flatten_rows (columns rows : Nat) (heights : List Int) :
    ((List.range rows).map fun row =>
        (heights.drop (row * columns)).take columns).flatten =
      heights.take (rows * columns) := by
  induction rows with
  | zero => rw [Nat.zero_mul, List.take_zero, List.range_zero, List.map_nil,
      List.flatten_nil]
  | succ rows induction =>
      rw [List.range_succ, List.map_append, List.flatten_append, induction,
        List.map_singleton, List.flatten_singleton, Nat.succ_mul, List.take_add]

section Grid

variable
    {lattice : Lattice}
    (columnsPos : 0 < lattice.config.columns)

include columnsPos

theorem rowsOf_eq :
    rowsOf lattice.config.columns lattice.heights =
      (List.range lattice.config.rows).map fun row =>
        (lattice.heights.drop (row * lattice.config.columns)).take
          lattice.config.columns := by
  have lengthEq :
      lattice.heights.length = lattice.config.columns * lattice.config.rows :=
    lattice.length_heights.trans lattice.size_eq
  -- All rows are full, so rounding their number up adds none.
  have split :
      lattice.config.columns * lattice.config.rows + lattice.config.columns - 1 =
        lattice.config.columns - 1 + lattice.config.columns * lattice.config.rows := by
    omega
  rw [rowsOf, lengthEq, split, Nat.add_mul_div_left _ _ columnsPos,
    Nat.div_eq_of_lt (by omega), Nat.zero_add]

/-- The heights that are cut into rows are the rows of heights. -/
theorem rowsOf_heights :
    rowsOf lattice.config.columns lattice.heights = lattice.heightMap := by
  rw [rowsOf_eq columnsPos, Lattice.heightMap]
  apply List.map_congr_left
  intro row member
  have rowLt := List.mem_range.mp member
  apply List.ext_getElem?
  intro column
  rw [List.getElem?_take, List.getElem?_drop, Lattice.getElem?_heights,
    List.getElem?_map]
  by_cases columnLt : column < lattice.config.columns
  · rcases lattice.exists_siteAt columnLt rowLt with ⟨state, found⟩
    have siteEq :
        lattice.site? (row * lattice.config.columns + column) = some state := found
    rw [if_pos columnLt, List.getElem?_range columnLt, Option.map_some, found, siteEq]
    rfl
  · have outside : (List.range lattice.config.columns)[column]? = none := by
      rw [List.getElem?_eq_none_iff, List.length_range]
      exact Nat.le_of_not_lt columnLt
    rw [if_neg columnLt, outside]
    rfl

/-- The rows of heights, put together, are the heights of all sites. -/
theorem flatten_heightMap : lattice.heightMap.flatten = lattice.heights := by
  rw [← rowsOf_heights columnsPos, rowsOf_eq columnsPos, flatten_rows]
  apply List.take_of_length_le
  rw [lattice.length_heights, lattice.size_eq, Nat.mul_comm]
  exact Nat.le_refl _

end Grid

/-! ## Sheets -/

section Sheets

variable {α : Type} [Quantity α]

/-- Why a lattice cannot be written. -/
def fault? (lattice : Lattice) (time : α) : Option ExportFault :=
  if lattice.size = 0 then some .noSamples
  else if !Quantity.isFinite time then some (.notFinite "Time (s)" 0)
  else none

/-- The lines of all rows. -/
def gridLines (delimiter : Char) (lattice : Lattice) : List String :=
  (rowsOf lattice.config.columns lattice.heights).map (rowLine delimiter)

/-- The height map of a lattice at a time. -/
def sheet (delimiter : Char) (lattice : Lattice) (time : α) : Sheet :=
  { fault? := fault? lattice time
    lines := headerLine time :: gridLines delimiter lattice }

/-- A writer of a height map is handed its sheet. -/
theorem handTo_eq
    {m : Type → Type}
    [Monad m]
    [LawfulMonad m]
    (put : String → m Unit)
    (delimiter : Char)
    (lattice : Lattice)
    (time : α) :
    handTo put delimiter lattice time = (sheet delimiter lattice time).handTo put := by
  rw [handTo, Sheet.handTo, sheet, fault?]
  split_ifs
  · rfl
  · rfl
  · dsimp only
    rw [Sheet.handLines_cons, gridLines, Sheet.handLines, List.forM_map, bind_assoc]

theorem write_eq_text (delimiter : Char) (lattice : Lattice) (time : α) :
    write delimiter lattice time = (sheet delimiter lattice time).text := by
  rw [write, handTo_eq, Sheet.text]

end Sheets

/-! ## Reading back -/

/-- The header line and the grid of a height map. -/
def read? (delimiter : Char) (text : String) : Option (String × List (List Int)) := do
  match ← Sheet.lines? text with
  | [] => none
  | header :: rows =>
    let grid ← rows.mapM fun row => (Sheet.cells delimiter row).mapM String.toInt?
    pure (header, grid)

theorem mapM_map_eq_some
    {β γ : Type}
    {spell : β → γ}
    {read? : γ → Option β}
    {values : List β}
    (back : ∀ value ∈ values, read? (spell value) = some value) :
    (values.map spell).mapM read? = some values := by
  induction values with
  | nil => rfl
  | cons value values induction =>
      rw [List.forall_mem_cons] at back
      rw [List.map_cons, List.mapM_cons, back.1, induction back.2]
      rfl

section Cells

variable
    {delimiter : Char}
    (delimits : Sheet.Delimits delimiter)

include delimits

theorem cells_rowLine
    {row : List Int}
    (nonempty : row ≠ []) :
    Sheet.cells delimiter (rowLine delimiter row) = row.map Style.signedText := by
  apply Sheet.cells_intercalate
  · simpa using nonempty
  · rw [List.forall_mem_map]
    intro height _ member
    have whole := isWholeLetter_of_mem_signedText member
    rw [delimits.not_isWholeLetter] at whole
    cases whole

/-- The heights of a row are read back. -/
theorem mapM_toInt?
    {row : List Int}
    (nonempty : row ≠ []) :
    (Sheet.cells delimiter (rowLine delimiter row)).mapM String.toInt? = some row := by
  rw [cells_rowLine delimits nonempty]
  apply mapM_map_eq_some
  intro height _
  rw [signedText_eq_repr, Int.toInt?_repr]

theorem unbroken_rowLine (row : List Int) :
    Sheet.Unbroken (rowLine delimiter row) := by
  apply Sheet.unbroken_intercalate delimits.lineEnd
  rw [List.forall_mem_map]
  intro height _ member
  exact absurd (isWholeLetter_of_mem_signedText member) (by decide)

end Cells

theorem unbroken_headerLine
    {time : Float}
    (finite : Quantity.isFinite time = true) :
    Sheet.Unbroken (headerLine time) := by
  rw [Sheet.Unbroken, headerLine, String.toList_append, List.mem_append, not_or]
  constructor
  · decide
  · intro member
    exact
      newline_ne_of_isDecimalLetter
        (DecimalLetters.of_mem_write .plain finite member) rfl

/-- The header line and the rows of heights are read back from a height map. -/
theorem exists_read?
    {lattice : Lattice}
    (columnsPos : 0 < lattice.config.columns)
    (rowsPos : 0 < lattice.config.rows)
    {time : Float}
    (finite : Quantity.isFinite time = true)
    {delimiter : Char}
    (delimits : Sheet.Delimits delimiter) :
    ∃ text,
      write delimiter lattice time = .ok text ∧
        read? delimiter text = some (headerLine time, lattice.heightMap) := by
  have sizeNe : lattice.size ≠ 0 := by
    rw [lattice.size_eq]
    exact (Nat.mul_pos columnsPos rowsPos).ne'
  have faultless : (sheet delimiter lattice time).fault? = none := by
    rw [sheet, fault?, if_neg sizeNe, finite]
    rfl
  have linesEq :
      (sheet delimiter lattice time).lines =
        headerLine time :: lattice.heightMap.map (rowLine delimiter) := by
    rw [sheet, gridLines, rowsOf_heights columnsPos]
  have unbroken :
      ∀ line ∈ (sheet delimiter lattice time).lines, Sheet.Unbroken line := by
    rw [linesEq, List.forall_mem_cons]
    exact
      ⟨unbroken_headerLine finite,
        List.forall_mem_map.mpr fun row _ => unbroken_rowLine delimits row⟩
  rcases Sheet.exists_text_lines? faultless unbroken with ⟨text, written, lines⟩
  have gridEq :
      (lattice.heightMap.map (rowLine delimiter)).mapM
          (fun row => (Sheet.cells delimiter row).mapM String.toInt?) =
        some lattice.heightMap := by
    apply mapM_map_eq_some
    intro row member
    apply mapM_toInt? delimits
    intro empty
    have lengthEq := lattice.length_of_mem_heightMap member
    rw [empty] at lengthEq
    exact columnsPos.ne lengthEq
  rw [← write_eq_text] at written
  refine ⟨text, written, ?_⟩
  rw [read?, lines, linesEq]
  simp [gridEq]

/--
The height map of a lattice with at least one site at a finite time decodes to the
lattice, whatever is neither a digit nor a minus nor a line end delimiting the heights.
Below the header line there is a line for every row, with the heights of the sites in
the order of their columns.  Set one after the other on any lattice of as many sites,
these are the heights of the lattice.
-/
theorem height_map_decodes
    {lattice : Lattice}
    (columnsPos : 0 < lattice.config.columns)
    (rowsPos : 0 < lattice.config.rows)
    {time : Float}
    (finite : Quantity.isFinite time = true)
    {delimiter : Char}
    (delimits : Sheet.Delimits delimiter) :
    ∃ text grid,
      write delimiter lattice time = .ok text ∧
        read? delimiter text = some (headerLine time, grid) ∧
          (grid.length = lattice.config.rows ∧
            ∀ row ∈ grid, row.length = lattice.config.columns) ∧
            (∀ column < lattice.config.columns, ∀ row < lattice.config.rows,
              ∃ state,
                lattice.site? (row * lattice.config.columns + column) = some state ∧
                  (grid[row]?).bind (·[column]?) = some state.height) ∧
              grid = lattice.heightMap ∧
                ∀ other : Lattice,
                  other.size = lattice.size →
                    (other.setHeightsFrom 0 grid.flatten).heights =
                      lattice.heights := by
  rcases exists_read? columnsPos rowsPos finite delimits with ⟨text, written, read⟩
  refine
    ⟨text, lattice.heightMap, written, read,
      ⟨lattice.length_heightMap, fun _ => lattice.length_of_mem_heightMap⟩, ?_, rfl, ?_⟩
  · intro column columnLt row rowLt
    rcases lattice.exists_siteAt columnLt rowLt with ⟨state, found⟩
    refine ⟨state, found, ?_⟩
    rw [lattice.getElem?_heightMap columnLt rowLt, found, Option.map_some]
  · intro other sizeEq
    have fits : 0 + lattice.heights.length = other.size := by
      rw [Nat.zero_add, lattice.length_heights, sizeEq]
    rw [flatten_heightMap columnsPos, other.heights_setHeightsFrom fits, List.take_zero,
      List.nil_append]

/-- Three columns and two rows, some heights below zero and two sites changed. -/
def valley : Lattice :=
  let lattice := Lattice.ofConfig
    { kind := .simpleCubic, columns := 3, rows := 2, initialHeight := -1 }
  (lattice.modify 1 (·.raise 1)).modify 5 (·.raise 12)

theorem height_map_decodes_valley :
    (0 < valley.config.columns ∧ 0 < valley.config.rows ∧
        Quantity.isFinite (0.5 : Float) = true ∧ Sheet.Delimits '+') ∧
      ∃ text,
        write '+' valley (0.5 : Float) = .ok text ∧
          read? '+' text =
            some (headerLine (0.5 : Float), [[-1, 0, -1], [-1, -1, 11]]) := by
  have columnsPos : 0 < valley.config.columns := by decide +kernel
  have rowsPos : 0 < valley.config.rows := by decide +kernel
  have finite : Quantity.isFinite (0.5 : Float) = true := by decide +kernel
  have delimits : Sheet.Delimits '+' := ⟨by decide, by decide, by decide⟩
  have gridEq : valley.heightMap = [[-1, 0, -1], [-1, -1, 11]] := by decide +kernel
  rcases height_map_decodes columnsPos rowsPos finite delimits with
    ⟨text, grid, written, read, _, _, same, _⟩
  refine ⟨⟨columnsPos, rowsPos, finite, delimits⟩, text, written, ?_⟩
  rw [read, same, gridEq]

end HeightMap

end SurfaceKinetics
