import SurfaceKinetics.SurfaceProcess.Perform
import SurfaceKinetics.Rate.Law

/-!
# Processes

A process is a descriptor with a rule, a rate law and a perform.  Its rule must
promise as many sites as its perform changes.
-/

namespace SurfaceKinetics

/-- What a process changes: heights of columns, or occupancies and labels. -/
inductive Mode where
  | height
  | label
  deriving DecidableEq

def Mode.name : Mode → String
  | height => "Height"
  | label => "Label"

/-- A process that can happen on a lattice. -/
structure SurfaceProcess (α : Type) where
  descriptor : Descriptor α
  species : String
  mode : Mode
  rule : Rule
  rateLaw : RateLaw α
  perform : Perform
  /-- The number of sites that an event touches. -/
  requiredSites : Nat := perform.sites
  requiredSites_eq : requiredSites = perform.sites := by rfl

namespace SurfaceProcess

variable {α : Type}

/-- A process that touches the sites which its perform changes. -/
def ofParts
    (descriptor : Descriptor α)
    (species : String)
    (mode : Mode)
    (rule : Rule)
    (rateLaw : RateLaw α)
    (perform : Perform) :
    SurfaceProcess α :=
  { descriptor, species, mode, rule, rateLaw, perform }

def name (process : SurfaceProcess α) : String := process.descriptor.name

def category (process : SurfaceProcess α) : Category := process.descriptor.category

/-- The change of the sum of all heights by one event. -/
def heightChange (process : SurfaceProcess α) : Int := process.perform.heightChange

/-- The name and the reaction. -/
def display (process : SurfaceProcess α) : String :=
  s!"{process.name} ({process.descriptor.reaction})"

/-- Whether the rule promises as many sites as the perform changes. -/
def isConsistent (rule : Rule) (perform : Perform) : Bool :=
  match rule, perform with
  | .allNeighboursOccupied, .lowerHeight sites => sites == 1
  | rule, .raiseHeight sites => 1 ≤ sites && rule.extraSites == sites - 1
  | rule, .lowerHeight sites => 1 ≤ sites && rule.extraSites == sites - 1
  | rule, .cover _ sites => 1 ≤ sites && rule.extraSites == sites - 1
  | rule, .uncover _ sites => 1 ≤ sites && rule.extraSites == sites - 1
  | _, _ => true

variable [Quantity α]

/-- The first fault of a process. -/
def fault? (process : SurfaceProcess α) : Option (ProcessFault α) :=
  if isConsistent process.rule process.perform then
    process.rateLaw.fault?.map (.rate process.name)
  else
    some <|
      .sitesNotGuaranteed process.name process.rule.name process.perform.sites
        process.perform.name

/-- A process without faults. -/
def checked (process : SurfaceProcess α) :
    Except (ProcessFault α) (SurfaceProcess α) :=
  match process.fault? with
  | some fault => throw fault
  | none => pure process

/-- The rate at a site, from its cached count of occupied neighbours. -/
def rate
    (process : SurfaceProcess α)
    (conditions : Conditions α)
    (lattice : Lattice)
    (site : Nat) : α :=
  process.rateLaw.siteRate conditions (lattice.cachedCount site)

end SurfaceProcess

end SurfaceKinetics
