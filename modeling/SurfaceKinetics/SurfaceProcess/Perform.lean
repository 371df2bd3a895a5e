import SurfaceKinetics.SurfaceProcess.Rule
import SurfaceKinetics.Random.Source
import SurfaceKinetics.SimulationError

/-!
# Performs

A perform changes the lattice by one event.  The event has an origin and draws
its partners, without replacement, from the neighbours of the origin that
satisfy the partner test of the perform; which partners are drawn is all that
chance decides.  `effect` is the change for given partners.

An event affects the sites it changes and their neighbours.
-/

namespace SurfaceKinetics

/-- The change of one event. -/
inductive Perform where
  /-- Raises the origin and level partners. -/
  | raiseHeight (sites : Nat)
  /-- Lowers the origin and level partners. -/
  | lowerHeight (sites : Nat)
  /-- Covers the origin and vacant level partners. -/
  | cover (species : String) (sites : Nat)
  /-- Uncovers the origin and level partners that hold the species. -/
  | uncover (species : String) (sites : Nat)
  /-- Moves the top of the origin's column to a partner that is not higher. -/
  | hopHeight
  /-- Moves the species to a vacant level partner. -/
  | hop (species : String)
  /--
  Consumes what the origin holds, and the partner species of a level partner,
  and leaves the product; may raise the origin.
  -/
  | react (partner product : Option String) (grows : Bool)
  deriving DecidableEq

namespace Perform

def name : Perform → String
  | raiseHeight _ => "raise height"
  | lowerHeight _ => "lower height"
  | cover .. => "cover"
  | uncover .. => "uncover"
  | hopHeight => "hop height"
  | hop _ => "hop"
  | react .. => "react"

/-- The number of sites that an event changes. -/
def sites : Perform → Nat
  | raiseHeight sites => sites
  | lowerHeight sites => sites
  | cover _ sites => sites
  | uncover _ sites => sites
  | hopHeight => 2
  | hop _ => 2
  | react partner _ _ => if partner.isSome then 2 else 1

/-- The number of partners that an event draws. -/
def partners (perform : Perform) : Nat := perform.sites - 1

/-- The change of the sum of all heights by one event. -/
def heightChange : Perform → Int
  | raiseHeight sites => sites
  | lowerHeight sites => -sites
  | react _ _ grows => if grows then 1 else 0
  | _ => 0

/-- Whether a neighbour may be a partner of an origin. -/
def acceptsPartner (perform : Perform) (origin other : Site) : Bool :=
  match perform with
  | raiseHeight _ => other.height == origin.height
  | lowerHeight _ => other.height == origin.height
  | cover .. => other.height == origin.height && !other.occupied
  | uncover species _ => other.height == origin.height && other.holds species
  | hopHeight => other.height ≤ origin.height
  | hop _ => other.height == origin.height && !other.occupied
  | react partner _ _ =>
    match partner with
    | some species => other.height == origin.height && other.holds species
    | none => false

/-- The neighbours from which partners are drawn. -/
def candidates
    (perform : Perform)
    (lattice : Lattice)
    (origin : Nat)
    (state : Site) :
    List Nat :=
  lattice.neighboursWhere origin (perform.acceptsPartner state)

/-- The state that a reaction leaves at its origin. -/
def reacted (product : Option String) (grows : Bool) (state : Site) : Site :=
  let bare := state.uncover
  let covered :=
    match product with
    | some species => bare.cover species
    | none => bare
  if grows then covered.raise 1 else covered

/-- The state that a reaction leaves at its origin, raised in 32 bits. -/
def reacted? (product : Option String) (grows : Bool) (state : Site) : Option Site :=
  let covered := reacted product false state
  if grows then covered.raise? 1 else some covered

/-- The lattice after an event with given partners. -/
def effect
    (perform : Perform)
    (lattice : Lattice)
    (origin : Nat)
    (chosen : List Nat) :
    Lattice :=
  match perform with
  | raiseHeight _ => lattice.modifyAll (origin :: chosen) (Site.raise · 1)
  | lowerHeight _ => lattice.modifyAll (origin :: chosen) (Site.raise · (-1))
  | cover species _ =>
    lattice.modifyAll (origin :: chosen) (Site.cover · species)
  | uncover _ _ => lattice.modifyAll (origin :: chosen) Site.uncover
  | hopHeight =>
    (lattice.modify origin (Site.raise · (-1))).modifyAll chosen (Site.raise · 1)
  | hop species =>
    (lattice.modify origin Site.uncover).modifyAll chosen (Site.cover · species)
  | react _ product grows =>
    (lattice.modifyAll chosen Site.uncover).modify origin (reacted product grows)

/-- The lattice after an event with given partners, its heights in 32 bits. -/
def effect?
    (perform : Perform)
    (lattice : Lattice)
    (origin : Nat)
    (chosen : List Nat) :
    Option Lattice :=
  match perform with
  | raiseHeight _ => lattice.modifyAll? (origin :: chosen) (Site.raise? · 1)
  | lowerHeight _ => lattice.modifyAll? (origin :: chosen) (Site.raise? · (-1))
  | hopHeight => do
    let lowered ← lattice.modify? origin (Site.raise? · (-1))
    lowered.modifyAll? chosen (Site.raise? · 1)
  | react _ product grows =>
    (lattice.modifyAll chosen Site.uncover).modify? origin (reacted? product grows)
  | cover .. => some (perform.effect lattice origin chosen)
  | uncover .. => some (perform.effect lattice origin chosen)
  | hop _ => some (perform.effect lattice origin chosen)

end Perform

/-- Inserts a number into a list in increasing order, unless it is there. -/
def insertSorted (number : Nat) : List Nat → List Nat
  | [] => [number]
  | first :: rest =>
    if number < first then number :: first :: rest
    else if number = first then first :: rest
    else first :: insertSorted number rest

/-- Sites and their neighbours in increasing order. -/
def Lattice.withNeighbours (lattice : Lattice) (sites : List Nat) : List Nat :=
  (sites.flatMap fun site => site :: lattice.neighbours site).foldl
    (fun sorted site => insertSorted site sorted) []

/-- What an event leaves: the lattice and the sites that it affects. -/
structure Event where
  lattice : Lattice
  affected : List Nat

namespace Perform

/-- The event with given partners. -/
def event
    (perform : Perform)
    (lattice : Lattice)
    (origin : Nat)
    (chosen : List Nat) :
    Event :=
  { lattice := perform.effect lattice origin chosen
    affected := lattice.withNeighbours (origin :: chosen) }

/-- The event with given partners in 32 bits. -/
def event?
    (perform : Perform)
    (lattice : Lattice)
    (origin : Nat)
    (chosen : List Nat) :
    Option Event :=
  (perform.effect? lattice origin chosen).map fun changed =>
    { lattice := changed
      affected := lattice.withNeighbours (origin :: chosen) }

variable {α : Type}

/-- One event at an origin, with partners drawn at random. -/
def execute
    (perform : Perform)
    (lattice : Lattice)
    (origin : Nat) :
    StateM RandomSource (Except (SimulationError α) Event) := do
  match lattice.getSite origin with
  | .error fault => pure (.error (.lattice fault))
  | .ok state =>
    let candidates := perform.candidates lattice origin state
    match ← RandomSource.takeMany perform.partners 0 candidates with
    | .error found =>
      pure (.error (.process (.tooFewPartners origin found perform.partners)))
    | .ok chosen => pure (.ok (perform.event lattice origin chosen))

/-- One event at an origin in 32 bits, with partners drawn at random. -/
def execute?
    (perform : Perform)
    (lattice : Lattice)
    (origin : Nat) :
    StateM RandomSource (Option (Except (SimulationError α) Event)) := do
  match lattice.getSite origin with
  | .error fault => pure (some (.error (.lattice fault)))
  | .ok state =>
    let candidates := perform.candidates lattice origin state
    match ← RandomSource.takeMany perform.partners 0 candidates with
    | .error found =>
      let fault := .tooFewPartners origin found perform.partners
      pure (some (.error (.process fault)))
    | .ok chosen => pure ((perform.event? lattice origin chosen).map .ok)

end Perform

end SurfaceKinetics
