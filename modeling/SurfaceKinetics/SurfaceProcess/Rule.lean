import SurfaceKinetics.Lattice.Basic

/-!
# Eligibility rules

A rule says at which sites a process may happen.  It looks at a site and its
direct neighbours and never further.  Level neighbours are those whose columns
are as high as the site's.
-/

namespace SurfaceKinetics

/-- When a process may happen at a site. -/
inductive Rule where
  | unconditional
  /-- Enough level neighbours. -/
  | sameHeightNeighbours (required : Nat)
  /-- All neighbours count as occupied. -/
  | allNeighboursOccupied
  | vacant
  /-- The site and enough level neighbours are vacant. -/
  | vacantCluster (required : Nat)
  /-- The column is above the floor, with enough level neighbours. -/
  | elevated (required : Nat)
  /-- The site and enough level neighbours hold a species. -/
  | occupiedBy (species : String) (required : Nat)
  /-- The site holds a species, and a level neighbour is vacant. -/
  | canHop (species : String)
  /-- The column is above the floor, and a neighbour is not higher. -/
  | canDescend
  /-- The site holds one species, and a level neighbour another if one is given. -/
  | pair (first : String) (second : Option String)
  deriving DecidableEq

namespace Rule

def name : Rule → String
  | unconditional => "unconditional"
  | sameHeightNeighbours _ => "same-height neighbours"
  | allNeighboursOccupied => "all neighbours occupied"
  | vacant => "vacant"
  | vacantCluster _ => "vacant cluster"
  | elevated _ => "elevated"
  | occupiedBy .. => "occupied by species"
  | canHop _ => "can hop"
  | canDescend => "can descend"
  | pair .. => "reactant pair"

/-- How many sites beside the origin a rule promises. -/
def extraSites : Rule → Nat
  | sameHeightNeighbours required => required
  | vacantCluster required => required
  | elevated required => required
  | occupiedBy _ required => required
  | _ => 0

end Rule

/-- The level neighbours of a site whose states satisfy a test. -/
def Lattice.levelNeighbours
    (lattice : Lattice)
    (site : Nat)
    (state : Site)
    (test : Site → Bool) :
    List Nat :=
  lattice.neighboursWhere site fun other =>
    other.height == state.height && test other

namespace Rule

/-- Whether a rule holds at a site in a given state. -/
def holdsAt
    (rule : Rule)
    (lattice : Lattice)
    (site : Nat)
    (state : Site) :
    Bool :=
  match rule with
  | unconditional => true
  | sameHeightNeighbours required =>
    required ≤ (lattice.levelNeighbours site state fun _ => true).length
  | allNeighboursOccupied =>
    lattice.occupiedNeighbours site == (lattice.neighbours site).length
  | vacant => !state.occupied
  | vacantCluster required =>
    !state.occupied &&
      required ≤
        (lattice.levelNeighbours site state fun other => !other.occupied).length
  | elevated required =>
    0 < state.height &&
      required ≤ (lattice.levelNeighbours site state fun _ => true).length
  | occupiedBy species required =>
    state.holds species &&
      required ≤
        (lattice.levelNeighbours site state fun other =>
          other.holds species).length
  | canHop species =>
    state.holds species &&
      !(lattice.levelNeighbours site state fun other => !other.occupied).isEmpty
  | canDescend =>
    0 < state.height &&
      !(lattice.neighboursWhere site fun other =>
          other.height ≤ state.height).isEmpty
  | pair first second =>
    state.holds first &&
      match second with
      | none => true
      | some second =>
        !(lattice.levelNeighbours site state fun other =>
            other.holds second).isEmpty

/--
Whether a process with this rule may happen at a site.  It never may beyond the lattice.
-/
def isEligible (rule : Rule) (lattice : Lattice) (site : Nat) : Bool :=
  match lattice.site? site with
  | none => false
  | some state => rule.holdsAt lattice site state

/-- Whether a rule holds at a site, with thresholds in 32 bits. -/
def isEligible? (rule : Rule) (lattice : Lattice) (site : Nat) : Option Bool :=
  match rule with
  | allNeighboursOccupied =>
    (lattice.occupiedNeighbours? site).map fun _ => rule.isEligible lattice site
  | rule => some (rule.isEligible lattice site)

end Rule

end SurfaceKinetics
