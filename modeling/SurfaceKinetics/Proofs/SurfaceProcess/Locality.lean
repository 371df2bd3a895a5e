import SurfaceKinetics.Proofs.Lattice.Frame
import SurfaceKinetics.SurfaceProcess.Basic

/-!
# Locality

Rules, counts of occupied neighbours and rates look at a site and its neighbours
only, and of a site they see the height, the occupancy and the label.  So they
agree on two lattices that look alike around a site.
-/

namespace SurfaceKinetics

/-- Two sites have the same height, occupancy and label on top. -/
structure Site.Alike (left right : Site) : Prop where
  height : left.height = right.height
  occupied : left.occupied = right.occupied
  label : left.label = right.label

theorem Site.Alike.refl (site : Site) : site.Alike site := ⟨rfl, rfl, rfl⟩

theorem Site.Alike.holds_eq
    {left right : Site}
    (alike : left.Alike right)
    (species : String) :
    left.holds species = right.holds species := by
  rw [holds, holds, alike.occupied, alike.label]

namespace Lattice

/-- Two lattices of one configuration look alike around a site. -/
structure AlikeAround (left right : Lattice) (site : Nat) : Prop where
  config : left.config = right.config
  coordination : left.coordination = right.coordination
  here : Option.Rel Site.Alike (left.site? site) (right.site? site)
  around :
    ∀ neighbour ∈ left.neighbours site,
      Option.Rel Site.Alike (left.site? neighbour) (right.site? neighbour)

/-- Lattices with equal states at a site and its neighbours look alike there. -/
theorem AlikeAround.of_eq
    {left right : Lattice}
    {site : Nat}
    (config : left.config = right.config)
    (coordination : left.coordination = right.coordination)
    (here : left.site? site = right.site? site)
    (around :
      ∀ neighbour ∈ left.neighbours site,
        left.site? neighbour = right.site? neighbour) :
    left.AlikeAround right site := by
  have reflexive : ∀ found : Option Site, Option.Rel Site.Alike found found := by
    intro found
    cases found with
    | none => exact .none
    | some state => exact .some (Site.Alike.refl state)
  refine ⟨config, coordination, here ▸ reflexive _, ?_⟩
  intro neighbour member
  exact around neighbour member ▸ reflexive _

/-- Cached counts do not change what a lattice looks like. -/
theorem AlikeAround.refreshMany
    {left right : Lattice}
    {site : Nat}
    (alike : left.AlikeAround right site)
    (sites : List Nat) :
    left.AlikeAround (right.refreshMany sites) site where
  config := by rw [config_refreshMany, alike.config]
  coordination := by rw [coordination_refreshMany, alike.coordination]
  here := by
    rw [site?_refreshMany]
    exact alike.here
  around := by
    intro neighbour member
    rw [site?_refreshMany]
    exact alike.around neighbour member

theorem neighbours_eq_of_config
    {left right : Lattice}
    (config : left.config = right.config)
    (site : Nat) :
    left.neighbours site = right.neighbours site := by
  have sizes : left.size = right.size := by
    rw [size, size, left.size_sites, right.size_sites, config]
  rw [neighbours, neighbours, sizes, config]

namespace AlikeAround

variable
    {left right : Lattice}
    {site : Nat}
    (alike : left.AlikeAround right site)

include alike

theorem neighbours_eq : left.neighbours site = right.neighbours site :=
  neighbours_eq_of_config alike.config site

/-- Tests that see no difference between alike sites select the same neighbours. -/
theorem neighboursWhere_eq
    {leftTest rightTest : Site → Bool}
    (tests :
      ∀ {first second : Site},
        first.Alike second → leftTest first = rightTest second) :
    left.neighboursWhere site leftTest =
      right.neighboursWhere site rightTest := by
  rw [neighboursWhere, neighboursWhere, ← alike.neighbours_eq]
  apply List.filter_congr
  intro neighbour member
  have states := alike.around neighbour member
  generalize left.site? neighbour = first at states ⊢
  generalize right.site? neighbour = second at states ⊢
  cases states with
  | some same => exact tests same
  | none => rfl

theorem levelNeighbours_eq
    {first second : Site}
    (states : first.Alike second)
    {leftTest rightTest : Site → Bool}
    (tests :
      ∀ {first second : Site},
        first.Alike second → leftTest first = rightTest second) :
    left.levelNeighbours site first leftTest =
      right.levelNeighbours site second rightTest := by
  apply alike.neighboursWhere_eq
  intro other another same
  rw [same.height, states.height, tests same]

theorem countsAsOccupied_eq
    (neighbour : Nat)
    {first second other another : Site}
    (states : first.Alike second)
    (others : other.Alike another) :
    left.countsAsOccupied site neighbour first other =
      right.countsAsOccupied site neighbour second another := by
  rw [countsAsOccupied, countsAsOccupied, alike.coordination, threshold,
    threshold, alike.config, states.height, others.height, others.occupied]

theorem occupiedNeighbours_eq :
    left.occupiedNeighbours site = right.occupiedNeighbours site := by
  have here := alike.here
  rw [occupiedNeighbours, occupiedNeighbours, ← alike.neighbours_eq]
  generalize left.site? site = first at here ⊢
  generalize right.site? site = second at here ⊢
  cases here with
  | none => rfl
  | some same =>
      apply List.countP_congr
      intro neighbour member
      have states := alike.around neighbour member
      generalize left.site? neighbour = other at states ⊢
      generalize right.site? neighbour = another at states ⊢
      cases states with
      | none => rfl
      | some alikeOthers =>
          simp only [alike.countsAsOccupied_eq neighbour same alikeOthers]

end AlikeAround

end Lattice

namespace Rule

variable
    {left right : Lattice}
    {site : Nat}
    (alike : left.AlikeAround right site)

include alike

theorem holdsAt_eq
    (rule : Rule)
    {first second : Site}
    (states : first.Alike second) :
    rule.holdsAt left site first = rule.holdsAt right site second := by
  have anyLevel :
      left.levelNeighbours site first (fun _ => true) =
        right.levelNeighbours site second (fun _ => true) :=
    alike.levelNeighbours_eq states fun _ => rfl
  have vacantLevel :
      left.levelNeighbours site first (fun other => !other.occupied) =
        right.levelNeighbours site second (fun other => !other.occupied) :=
    alike.levelNeighbours_eq states fun same => by rw [same.occupied]
  have holdingLevel :
      ∀ species,
        left.levelNeighbours site first (Site.holds · species) =
          right.levelNeighbours site second (Site.holds · species) :=
    fun species =>
      alike.levelNeighbours_eq states fun same => same.holds_eq species
  cases rule with
  | unconditional => rfl
  | sameHeightNeighbours required =>
      simp only [holdsAt, anyLevel]
  | allNeighboursOccupied =>
      simp only [holdsAt, alike.occupiedNeighbours_eq, alike.neighbours_eq]
  | vacant =>
      simp only [holdsAt, states.occupied]
  | vacantCluster required =>
      simp only [holdsAt, states.occupied, vacantLevel]
  | elevated required =>
      simp only [holdsAt, states.height, anyLevel]
  | occupiedBy species required =>
      simp only [holdsAt, states.holds_eq, holdingLevel]
  | canHop species =>
      simp only [holdsAt, states.holds_eq, vacantLevel]
  | canDescend =>
      have lowNeighbours :
          left.neighboursWhere site (fun other => other.height ≤ first.height) =
            right.neighboursWhere site
              (fun other => other.height ≤ second.height) :=
        alike.neighboursWhere_eq fun same => by
          rw [same.height, states.height]
      rw [holdsAt, holdsAt, lowNeighbours, states.height]
  | pair species partner =>
      cases partner with
      | none =>
          simp only [holdsAt, states.holds_eq]
      | some partner =>
          simp only [holdsAt, states.holds_eq, holdingLevel]

/-- A rule agrees on lattices that look alike around a site. -/
theorem isEligible_eq (rule : Rule) :
    rule.isEligible left site = rule.isEligible right site := by
  have here := alike.here
  rw [isEligible, isEligible]
  generalize left.site? site = first at here ⊢
  generalize right.site? site = second at here ⊢
  cases here with
  | none => rfl
  | some states => exact rule.holdsAt_eq alike states

end Rule

end SurfaceKinetics
