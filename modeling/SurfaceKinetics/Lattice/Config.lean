import SurfaceKinetics.Lattice.Geometry
import SurfaceKinetics.Short

/-!
# Lattice configurations

A configuration fixes the grid, the initial column height, the label of the
substrate and, for a stepped surface, the terraces into which the columns are
divided.  Terraces have equal widths, and each is `height` above the one before
it; across the periodic seam the last terrace meets the first one.
-/

namespace SurfaceKinetics

/-- Terraces along the columns; `depth` is read and kept without a use. -/
structure StepProfile where
  count : Nat
  height : Int
  depth : Int
  deriving DecidableEq

/-- What a lattice is built from. -/
structure LatticeConfig where
  kind : LatticeKind
  columns : Nat
  rows : Nat
  initialHeight : Int
  label : String := ""
  steps : Option StepProfile := none
  deriving DecidableEq

/-- Why a lattice cannot be built or a site not be found. -/
inductive LatticeFault where
  | emptyDimension (columns rows : Nat)
  | unevenSteps (columns count : Nat)
  | siteOutOfRange (site size : Nat)
  deriving DecidableEq

def LatticeFault.message : LatticeFault → String
  | emptyDimension columns rows =>
    s!"Lattice dimensions must be positive, got {columns} x {rows}"
  | unevenSteps columns count =>
    s!"Cannot create stepped surface: {columns} columns cannot be divided " ++
      s!"exactly into {count} steps"
  | siteOutOfRange site size =>
    s!"Site {site} out of range (lattice has {size} sites)"

/-- The columns of one terrace. -/
def StepProfile.terraceWidth (steps : StepProfile) (columns : Nat) : Nat :=
  columns / max steps.count 1

namespace LatticeConfig

def grid (config : LatticeConfig) : Grid :=
  { kind := config.kind, columns := config.columns, rows := config.rows }

/-- The number of sites. -/
def size (config : LatticeConfig) : Nat := config.columns * config.rows

/-- The first fault of a configuration. -/
def fault? (config : LatticeConfig) : Option LatticeFault :=
  if config.columns = 0 ∨ config.rows = 0 then
    some (.emptyDimension config.columns config.rows)
  else
    match config.steps with
    | none => none
    | some steps =>
      if steps.count = 0 ∨ config.columns % steps.count ≠ 0 then
        some (.unevenSteps config.columns steps.count)
      else
        none

/--
The height at which a column starts, which may be of any size; the program builds with
that of `startHeight?`.
-/
def startHeight (config : LatticeConfig) (column : Nat) : Int :=
  match config.steps with
  | none => config.initialHeight
  | some steps =>
    config.initialHeight +
      (column / steps.terraceWidth config.columns : Nat) * steps.height

/--
One more than the difference of the heights that meet at the periodic seam; zero
on a flat surface.  It is exact; the program stops where `seamHeight?` does not fit.
-/
def seamHeight (config : LatticeConfig) : Int :=
  match config.steps with
  | none => 0
  | some _ =>
    (config.startHeight (config.columns - 1) - config.startHeight 0).natAbs + 1

/-- The height at which a column starts, computed in 32 bits. -/
def startHeight? (config : LatticeConfig) (column : Nat) : Option Int :=
  match config.steps with
  | none => some config.initialHeight
  | some steps => do
    let rise ←
      short? ((column / steps.terraceWidth config.columns : Nat) * steps.height)
    short? (config.initialHeight + rise)

/-- The height at the seam, computed in 32 bits. -/
def seamHeight? (config : LatticeConfig) : Option Int :=
  match config.steps with
  | none => some 0
  | some _ => do
    let first ← config.startHeight? 0
    let last ← config.startHeight? (config.columns - 1)
    let difference ← short? (last - first)
    let distance ← short? difference.natAbs
    short? (distance + 1)

/-- Whether a site is on the lower side of the seam of a stepped surface. -/
def isLowerEdge (config : LatticeConfig) (site : Nat) : Bool :=
  config.steps.isSome && site % config.columns == 0

/-- Whether a site is on the higher side of the seam of a stepped surface. -/
def isHigherEdge (config : LatticeConfig) (site : Nat) : Bool :=
  config.steps.isSome && site % config.columns + 1 == config.columns

end LatticeConfig

end SurfaceKinetics
