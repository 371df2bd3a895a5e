import SurfaceKinetics.Note

/-!
# Lattice geometry

A geometry says who neighbours whom.  Sites are numbered row by row on a grid
that is periodic in both directions; the neighbours of a site are the sites at
the offsets of its lattice kind, without the site itself and without repetition,
in the order of the offsets.
-/

namespace SurfaceKinetics

/-- The kinds of lattices. -/
inductive LatticeKind where
  | simpleCubic
  | bodyCentred
  | faceCentred
  | diamond
  deriving DecidableEq, Inhabited

namespace LatticeKind

/-- The name of a kind in inputs and outputs. -/
def tag : LatticeKind → String
  | simpleCubic => "SimpleCubic"
  | bodyCentred => "BCC"
  | faceCentred => "FCC"
  | diamond => "Diamond"

/-- The name of a kind as a constructor. -/
def label : LatticeKind → String
  | simpleCubic => "SimpleCubic"
  | bodyCentred => "Bcc"
  | faceCentred => "Fcc"
  | diamond => "Diamond"

/-- The kind that a lower-cased name stands for. -/
def ofLowerTag? : String → Option LatticeKind
  | "simplecubic" => some simpleCubic
  | "simple_cubic" => some simpleCubic
  | "bcc" => some bodyCentred
  | "fcc" => some faceCentred
  | "diamond" => some diamond
  | _ => none

/-- East, west, south and north. -/
def squareOffsets : List (Int × Int) := [(1, 0), (-1, 0), (0, 1), (0, -1)]

/-- The square offsets and one diagonal. -/
def triangularOffsets : List (Int × Int) :=
  [(1, 0), (-1, 0), (0, 1), (0, -1), (1, -1), (-1, 1)]

/-- The columns and rows from a site to its neighbours. -/
def offsets : LatticeKind → List (Int × Int)
  | simpleCubic => squareOffsets
  | bodyCentred => squareOffsets
  | faceCentred => triangularOffsets
  | diamond => squareOffsets

end LatticeKind

/-- A periodic grid of sites with the offsets of a lattice kind. -/
structure Grid where
  kind : LatticeKind
  columns : Nat
  rows : Nat
  deriving DecidableEq

namespace Grid

/-- The number of sites. -/
def size (grid : Grid) : Nat := grid.columns * grid.rows

/-- The column of a site. -/
def columnOf (grid : Grid) (site : Nat) : Nat := site % grid.columns

/-- The row of a site; it is not wrapped for numbers beyond the grid. -/
def rowOf (grid : Grid) (site : Nat) : Nat := site / grid.columns

/-- The site in a column and a row. -/
def siteAt (grid : Grid) (column row : Nat) : Nat := row * grid.columns + column

/-- The site at an offset from another, around the edges of the grid. -/
def shifted (grid : Grid) (site : Nat) (offset : Int × Int) : Nat :=
  grid.siteAt
    (((grid.columnOf site : Int) + offset.1) % grid.columns).toNat
    (((grid.rowOf site : Int) + offset.2) % grid.rows).toNat

/-- The neighbours of a site. -/
def neighbours (grid : Grid) (site : Nat) : List Nat :=
  ((grid.kind.offsets.map (grid.shifted site)).filter (· ≠ site)).eraseDups

end Grid

end SurfaceKinetics
