import SurfaceKinetics.Lattice.Basic
import SurfaceKinetics.Quantity
import SurfaceKinetics.Total

/-!
# Surface properties

What can be measured on a lattice: the mean height, the standard deviation of
the heights, the roughness, and the share of sites that carry a label.  The
roughness adds the height differences between every site and each of its
neighbours, so that each bond counts twice, relative to two bonds per site; a
flat surface has roughness one.
-/

namespace SurfaceKinetics

/-- One measurement of the heights of a lattice. -/
structure Surface (α : Type) where
  meanHeight : α
  roughness : α
  rms : α

namespace Surface

variable {α : Type} [Quantity α]

/-- The heights column by column. -/
def heightsByColumn (lattice : Lattice) : List Int :=
  (List.range lattice.config.columns).flatMap fun column =>
    (List.range lattice.config.rows).map fun row =>
      match lattice.site? (lattice.config.grid.siteAt column row) with
      | some state => state.height
      | none => 0

/-- The average of heights; zero when there are none. -/
def mean (heights : List Int) : α :=
  if heights.isEmpty then
    Quantity.zero
  else
    Quantity.ofInt (netTotal heights) / Quantity.ofNat heights.length

/-- The square of the distance between a height and the mean. -/
def squaredDeviation (mean : α) (height : Int) : α :=
  let deviation := Quantity.ofInt height - mean
  deviation * deviation

/-- The standard deviation of heights; zero when there are none. -/
def deviation (heights : List Int) : α :=
  if heights.isEmpty then
    Quantity.zero
  else
    Quantity.sqrt <|
      Quantity.sum (heights.map (squaredDeviation (mean heights))) /
        Quantity.ofNat heights.length

/-- The sum of the height differences between a site and its neighbours. -/
def bondSteps (lattice : Lattice) (site : Nat) : Nat :=
  match lattice.site? site with
  | none => 0
  | some state =>
    total <|
      (lattice.neighbours site).map fun neighbour =>
        match lattice.site? neighbour with
        | some other => (state.height - other.height).natAbs
        | none => 0

/-- The height differences between a site and its neighbours fit into 32 bits. -/
def bondsFit (lattice : Lattice) (site : Nat) : Bool :=
  match lattice.site? site with
  | none => true
  | some state =>
    (lattice.neighbours site).all fun neighbour =>
      match lattice.site? neighbour with
      | some other =>
        let difference := state.height - other.height
        IsShort difference && IsShort difference.natAbs
      | none => true

/-- The height differences between neighbours fit into 32 bits everywhere. -/
def fits (lattice : Lattice) : Bool :=
  (List.range lattice.size).all (bondsFit lattice)

/-- The sum of the height differences over all sites and their neighbours. -/
def totalSteps (lattice : Lattice) : Nat :=
  total ((List.range lattice.size).map (bondSteps lattice))

/-- The roughness; one when there are no sites. -/
def roughnessOf (lattice : Lattice) : α :=
  if lattice.size = 0 then
    Quantity.ofNat 1
  else
    Quantity.ofNat 1 +
      Quantity.ofNat (totalSteps lattice) /
        (Quantity.ofNat 2 * Quantity.ofNat lattice.size)

/-- Measures the heights of a lattice. -/
def measure (lattice : Lattice) : Surface α :=
  let heights := heightsByColumn lattice
  { meanHeight := mean heights
    roughness := roughnessOf lattice
    rms := deviation heights }

/-- Measures the heights of a lattice in 32 bits. -/
def measure? (lattice : Lattice) : Option (Surface α) :=
  if fits lattice then some (measure lattice) else none

/-- The share of sites that carry a label. -/
def coverage (lattice : Lattice) (species : String) : α :=
  if lattice.size = 0 then
    Quantity.zero
  else
    Quantity.ofNat (lattice.countLabel species) / Quantity.ofNat lattice.size

/-- Monolayers per second, from the net number of columns added in some time. -/
def growthRate (net : Int) (sites : Nat) (time : α) : α :=
  if sites = 0 ∨ time ≤ Quantity.zero then
    Quantity.zero
  else
    Quantity.ofInt net / Quantity.ofNat sites / time

end Surface

end SurfaceKinetics
