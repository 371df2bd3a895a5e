import SurfaceKinetics.Decimal.Style
import SurfaceKinetics.Lattice.Config

/-!
# The lattice

A lattice is a configuration with a state for every site: the height of its
column, whether an adsorbate sits on it, and the labels of what is on top and of
what lies below the last adsorbate.  Beside the sites it caches how many
neighbours of each site count as occupied.

A neighbour counts by height when its column is at least as high as the site's,
where a step across the periodic seam is made up for, and by occupancy when it
carries an adsorbate.

Changing a site leaves the cached counts as they are; they are refreshed site by
site or all at once.
-/

namespace SurfaceKinetics

/-- The state of one site. -/
structure Site where
  height : Int
  occupied : Bool
  label : String
  below : String
  deriving DecidableEq, Inhabited

namespace Site

/-- A vacant site with a substrate label. -/
def vacant (height : Int) (label : String) : Site :=
  { height, occupied := false, label, below := label }

/-- Raises the column, to a height of any size; the program takes `raise?`. -/
def raise (site : Site) (amount : Int) : Site :=
  { site with height := site.height + amount }

/-- Raises the column in 32 bits. -/
def raise? (site : Site) (amount : Int) : Option Site :=
  (short? (site.height + amount)).map fun height => { site with height }

/-- Puts a species on top and remembers the label below it. -/
def cover (site : Site) (species : String) : Site :=
  { site with occupied := true, label := species, below := site.label }

/-- Frees the site and restores the label below. -/
def uncover (site : Site) : Site :=
  { site with occupied := false, label := site.below }

/-- Whether the site is occupied by a species. -/
def holds (site : Site) (species : String) : Bool :=
  site.occupied && site.label == species

end Site

/-- When a neighbour counts as occupied. -/
inductive Coordination where
  | height
  | occupancy
  deriving DecidableEq, Inhabited

def Coordination.name : Coordination → String
  | height => "Height"
  | occupancy => "Occupancy"

/-- A configured lattice with the states and cached counts of its sites. -/
structure Lattice where
  config : LatticeConfig
  coordination : Coordination
  sites : Array Site
  counts : Array Nat
  size_sites : sites.size = config.size
  size_counts : counts.size = config.size

namespace Lattice

/-! ## Sites and neighbours -/

/-- The number of sites. -/
def size (lattice : Lattice) : Nat := lattice.sites.size

def site? (lattice : Lattice) (site : Nat) : Option Site := lattice.sites[site]?

/-- The state of a site, or the fault that there is no such site. -/
def getSite (lattice : Lattice) (site : Nat) : Except LatticeFault Site :=
  match lattice.site? site with
  | some state => pure state
  | none => throw (.siteOutOfRange site lattice.size)

/-- The neighbours of a site; numbers beyond the lattice have none. -/
def neighbours (lattice : Lattice) (site : Nat) : List Nat :=
  if site < lattice.size then lattice.config.grid.neighbours site else []

/-- The neighbours of a site whose states satisfy a test. -/
def neighboursWhere
    (lattice : Lattice)
    (site : Nat)
    (test : Site → Bool) :
    List Nat :=
  (lattice.neighbours site).filter fun neighbour =>
    match lattice.site? neighbour with
    | some state => test state
    | none => false

/-- Changes the state of one site. -/
def modify (lattice : Lattice) (site : Nat) (change : Site → Site) : Lattice :=
  { lattice with
    sites := lattice.sites.modify site change
    size_sites := by simp [lattice.size_sites] }

/-- Changes the states of several sites, one after the other. -/
def modifyAll
    (lattice : Lattice)
    (sites : List Nat)
    (change : Site → Site) :
    Lattice :=
  sites.foldl (fun lattice site => lattice.modify site change) lattice

/-- Changes the state of one site, if its change has a result. -/
def modify?
    (lattice : Lattice)
    (site : Nat)
    (change? : Site → Option Site) :
    Option Lattice :=
  match lattice.site? site with
  | none => some lattice
  | some state =>
    (change? state).map fun changed => lattice.modify site fun _ => changed

/-- Changes the states of several sites, if all changes have results. -/
def modifyAll?
    (lattice : Lattice)
    (sites : List Nat)
    (change? : Site → Option Site) :
    Option Lattice :=
  sites.foldlM (fun lattice site => lattice.modify? site change?) lattice

@[simp]
theorem size_modify
    (lattice : Lattice)
    (site : Nat)
    (change : Site → Site) :
    (lattice.modify site change).size = lattice.size := by
  simp [modify, size]

@[simp]
theorem config_modify
    (lattice : Lattice)
    (site : Nat)
    (change : Site → Site) :
    (lattice.modify site change).config = lattice.config :=
  rfl

@[simp]
theorem counts_modify
    (lattice : Lattice)
    (site : Nat)
    (change : Site → Site) :
    (lattice.modify site change).counts = lattice.counts :=
  rfl

/-! ## Coordination -/

/--
The least height at which a neighbour's column counts as occupied.  Seen across
the seam of a stepped surface, the higher edge counts from one step further up
and the lower edge from one step further down.  It is a whole number of any size; the
program compares with that of `threshold?`.
-/
def threshold
    (lattice : Lattice)
    (site neighbour : Nat)
    (height : Int) :
    Int :=
  let config := lattice.config
  if config.isLowerEdge site && config.isHigherEdge neighbour then
    height + config.seamHeight + 1
  else if config.isLowerEdge neighbour && config.isHigherEdge site then
    height - config.seamHeight + 1
  else
    height

/-- The threshold of a site's height, computed in 32 bits. -/
def threshold?
    (lattice : Lattice)
    (site neighbour : Nat)
    (height : Int) :
    Option Int :=
  let config := lattice.config
  if config.isLowerEdge site && config.isHigherEdge neighbour then do
    let above ← short? (height + config.seamHeight)
    short? (above + 1)
  else if config.isLowerEdge neighbour && config.isHigherEdge site then do
    let below ← short? (height - config.seamHeight)
    short? (below + 1)
  else
    some height

/-- Whether one neighbour of a site counts as occupied. -/
def countsAsOccupied
    (lattice : Lattice)
    (site neighbour : Nat)
    (state other : Site) :
    Bool :=
  match lattice.coordination with
  | .occupancy => other.occupied
  | .height => lattice.threshold site neighbour state.height ≤ other.height

/-- How many neighbours of a site count as occupied. -/
def occupiedNeighbours (lattice : Lattice) (site : Nat) : Nat :=
  match lattice.site? site with
  | none => 0
  | some state =>
    (lattice.neighbours site).countP fun neighbour =>
      match lattice.site? neighbour with
      | some other => lattice.countsAsOccupied site neighbour state other
      | none => false

/-- Whether a neighbour counts as occupied, with a threshold in 32 bits. -/
def countsAsOccupied?
    (lattice : Lattice)
    (site neighbour : Nat)
    (state other : Site) :
    Option Bool :=
  match lattice.coordination with
  | .occupancy => some other.occupied
  | .height =>
    (lattice.threshold? site neighbour state.height).map fun threshold =>
      threshold ≤ other.height

/-- How many neighbours of a site count as occupied, with thresholds in 32 bits. -/
def occupiedNeighbours? (lattice : Lattice) (site : Nat) : Option Nat :=
  match lattice.site? site with
  | none => some 0
  | some state =>
    Option.map (List.countP id) <|
      (lattice.neighbours site).mapM fun neighbour =>
        match lattice.site? neighbour with
        | some other => lattice.countsAsOccupied? site neighbour state other
        | none => some false

/-- The cached count of a site; numbers beyond the lattice have none. -/
def cachedCount (lattice : Lattice) (site : Nat) : Nat :=
  lattice.counts[site]?.getD 0

/-- Counts the neighbours of one site anew. -/
def refresh (lattice : Lattice) (site : Nat) : Lattice :=
  { lattice with
    counts := lattice.counts.setIfInBounds site (lattice.occupiedNeighbours site)
    size_counts := by simp [lattice.size_counts] }

/-- Counts the neighbours of one site anew, with thresholds in 32 bits. -/
def refresh? (lattice : Lattice) (site : Nat) : Option Lattice :=
  (lattice.occupiedNeighbours? site).map fun count =>
    { lattice with
      counts := lattice.counts.setIfInBounds site count
      size_counts := by simp [lattice.size_counts] }

/-- Counts the neighbours of several sites anew. -/
def refreshMany (lattice : Lattice) (sites : List Nat) : Lattice :=
  sites.foldl refresh lattice

/-- Counts the neighbours of all sites anew. -/
def refreshAll (lattice : Lattice) : Lattice :=
  lattice.refreshMany (List.range lattice.size)

/-- Counts the neighbours of several sites anew, with thresholds in 32 bits. -/
def refreshMany? (lattice : Lattice) (sites : List Nat) : Option Lattice :=
  sites.foldlM refresh? lattice

/-- Counts the neighbours of all sites anew, with thresholds in 32 bits. -/
def refreshAll? (lattice : Lattice) : Option Lattice :=
  lattice.refreshMany? (List.range lattice.size)

@[simp]
theorem sites_refresh
    (lattice : Lattice)
    (site : Nat) :
    (lattice.refresh site).sites = lattice.sites :=
  rfl

@[simp]
theorem config_refresh
    (lattice : Lattice)
    (site : Nat) :
    (lattice.refresh site).config = lattice.config :=
  rfl

/-- Changes when neighbours count, and counts all of them anew. -/
def withCoordination (lattice : Lattice) (coordination : Coordination) : Lattice :=
  refreshAll { lattice with coordination }

/-- Changes when neighbours count, and counts all of them in 32 bits. -/
def withCoordination? (lattice : Lattice) (coordination : Coordination) :
    Option Lattice :=
  refreshAll? { lattice with coordination }

/-! ## Building -/

/-- The states of the sites of a new lattice. -/
def startSites (config : LatticeConfig) : Array Site :=
  (Array.range config.size).map fun site =>
    Site.vacant (config.startHeight (site % config.columns)) config.label

/-- A new lattice whose neighbours have not been counted, coordinated by height. -/
def uncounted (config : LatticeConfig) : Lattice :=
  { config
    coordination := .height
    sites := startSites config
    counts := Array.replicate config.size 0
    size_sites := by simp [startSites]
    size_counts := by simp }

/-- A new lattice, coordinated by height. -/
def ofConfig (config : LatticeConfig) : Lattice := refreshAll (uncounted config)

/-- A new lattice with heights, seam and counts computed in 32 bits. -/
def ofConfig? (config : LatticeConfig) : Option Lattice := do
  let _ ← (List.range config.columns).mapM config.startHeight?
  let _ ← config.seamHeight?
  refreshAll? (uncounted config)

/-- Initial heights below this one leave little room for desorption. -/
def shallowHeight : Int := 5

/-- Warns of an initial height that is below the shallow one. -/
def noteShallow (config : LatticeConfig) : Noted Unit :=
  Noted.noteIf (config.initialHeight < shallowHeight) .lattice .warn <|
    s!"Initial lattice height {Style.signedText config.initialHeight} is below 5: " ++
      "desorption may dig into the substrate floor"

/-- Reports a new lattice. -/
def noteBuilt (config : LatticeConfig) : Noted Unit :=
  Noted.note .lattice .info <|
    s!"Built {config.kind.tag} lattice {config.columns} x {config.rows} " ++
      s!"(height {Style.signedText config.initialHeight}, {config.size} sites)"

/-- Builds a lattice from a configuration without faults. -/
def build (config : LatticeConfig) : Except LatticeFault (Noted Lattice) :=
  match config.fault? with
  | some fault => throw fault
  | none =>
    pure do
      noteShallow config
      let lattice := ofConfig config
      noteBuilt config
      pure lattice

/-- Builds a lattice in 32 bits from a configuration without faults. -/
def build? (config : LatticeConfig) : Except LatticeFault (Checked Lattice) :=
  match config.fault? with
  | some fault => throw fault
  | none =>
    pure do
      noteShallow config
      let lattice ← Checked.ofOption (ofConfig? config)
      noteBuilt config
      pure lattice

/-! ## Views -/

/-- The heights of all columns, in the order of the sites. -/
def heights (lattice : Lattice) : List Int := lattice.sites.toList.map Site.height

/-- The rows of heights. -/
def heightMap (lattice : Lattice) : List (List Int) :=
  (List.range lattice.config.rows).map fun row =>
    (List.range lattice.config.columns).map fun column =>
      match lattice.site? (lattice.config.grid.siteAt column row) with
      | some state => state.height
      | none => 0

/-- How many sites carry a label on top. -/
def countLabel (lattice : Lattice) (species : String) : Nat :=
  lattice.sites.toList.countP fun state => state.label == species

/-- How many sites are occupied by a species. -/
def countHolding (lattice : Lattice) (species : String) : Nat :=
  lattice.sites.toList.countP fun state => state.holds species

end Lattice

end SurfaceKinetics
