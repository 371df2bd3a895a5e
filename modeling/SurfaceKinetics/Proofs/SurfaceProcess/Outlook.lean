import Mathlib.Data.Set.Insert
import SurfaceKinetics.Proofs.Lattice.Building
import SurfaceKinetics.Proofs.Lattice.Neighbourhood
import SurfaceKinetics.Proofs.SurfaceProcess.Locality

/-!
# The outlook of a site

What can happen at a site, and how fast, depends on the site and its neighbours and
on nothing beyond them.  Since neighbourhood is mutual, the sites that see a change
are the changed ones and their neighbours; all others keep their outlook, however
much has changed.
-/

namespace SurfaceKinetics

namespace Lattice

/-- A site exists on both lattices or neither, with what is visible the same. -/
def AlikeAt (left right : Lattice) (site : Nat) : Prop :=
  Option.Rel Site.Alike (left.site? site) (right.site? site)

theorem AlikeAt.of_eq
    {left right : Lattice}
    {site : Nat}
    (equal : left.site? site = right.site? site) :
    left.AlikeAt right site := by
  rw [AlikeAt, ← equal]
  cases left.site? site with
  | none => exact .none
  | some state => exact .some (Site.Alike.refl state)

/-- Some sites and their neighbours. -/
def withinReach (lattice : Lattice) (changed : Set Nat) : Set Nat :=
  {site | site ∈ changed ∨ ∃ origin ∈ changed, site ∈ lattice.neighbours origin}

variable
    {left right : Lattice}
    (config : left.config = right.config)
    (coordination : left.coordination = right.coordination)

include config coordination

/-- Out of reach of all changes two lattices look alike. -/
theorem alikeAround_of_notMem_withinReach
    {changed : Set Nat}
    (unchanged : ∀ site, site ∉ changed → left.AlikeAt right site)
    {site : Nat}
    (unreached : site ∉ left.withinReach changed) :
    left.AlikeAround right site := by
  constructor
  · exact config
  · exact coordination
  · apply unchanged
    intro inside
    exact unreached (Or.inl inside)
  · intro neighbour member
    apply unchanged
    intro inside
    have back : site ∈ left.neighbours neighbour :=
      mem_neighbours_comm.mp member
    exact unreached (Or.inr ⟨neighbour, inside, back⟩)

end Lattice

variable {α : Type} [Quantity α]

/--
Rules, counts of occupied neighbours and, where these are cached faithfully, rates agree
at a site of two lattices.
-/
structure SameOutlook (α : Type) [Quantity α] (left right : Lattice) (site : Nat) :
    Prop where
  eligible :
    ∀ rule : Rule, rule.isEligible left site = rule.isEligible right site
  occupiedNeighbours :
    left.occupiedNeighbours site = right.occupiedNeighbours site
  rate :
    left.Counted →
      right.Counted →
        ∀ (process : SurfaceProcess α) (conditions : Conditions α),
          process.rate conditions left site = process.rate conditions right site

/-- Lattices that look alike around a site offer the same outlook from it. -/
theorem Lattice.AlikeAround.sameOutlook
    {left right : Lattice}
    {site : Nat}
    (alike : left.AlikeAround right site) :
    SameOutlook α left right site where
  eligible rule := rule.isEligible_eq alike
  occupiedNeighbours := alike.occupiedNeighbours_eq
  rate leftCounted rightCounted process conditions := by
    rw [SurfaceProcess.rate, SurfaceProcess.rate, leftCounted, rightCounted,
      alike.occupiedNeighbours_eq]

/--
On two lattices of one configuration and coordination, let a site and its neighbours
have the same heights, occupancies and labels.  Then all rules, the count of occupied
neighbours and, with faithful caches, the rates of all processes are the same at the
site.  So where lattices differ at some sites only, these are the same at every site
that is neither one of them nor a neighbour of one.
-/
theorem outlook_one_hop_local
    {left right : Lattice}
    (config : left.config = right.config)
    (coordination : left.coordination = right.coordination) :
    (∀ site,
      left.AlikeAt right site →
        (∀ neighbour ∈ left.neighbours site, left.AlikeAt right neighbour) →
          SameOutlook α left right site) ∧
      ∀ changed : Set Nat,
        (∀ site, site ∉ changed → left.AlikeAt right site) →
          ∀ site,
            site ∉ left.withinReach changed → SameOutlook α left right site := by
  constructor
  · intro site here around
    have alike : left.AlikeAround right site :=
      ⟨config, coordination, here, around⟩
    exact alike.sameOutlook
  · intro changed unchanged site unreached
    have alike :=
      Lattice.alikeAround_of_notMem_withinReach config coordination unchanged
        unreached
    exact alike.sameOutlook

/-- A sheared sheet of five columns. -/
def sheetConfig : LatticeConfig :=
  { kind := .faceCentred, columns := 5, rows := 4, initialHeight := 3 }

/-- The sheet before and after one of its columns has shrunk. -/
def sheet (amount : Int) : Lattice :=
  ((Lattice.ofConfig sheetConfig).modify 7 (Site.raise · amount)).refreshAll

theorem outlook_one_hop_local_sheet :
    (sheet 0).config = (sheet (-1)).config ∧
      (sheet 0).coordination = (sheet (-1)).coordination ∧
        (sheet 0).heights ≠ (sheet (-1)).heights ∧
          (∀ site, site ∉ ({7} : Set Nat) → (sheet 0).AlikeAt (sheet (-1)) site) ∧
            14 ∉ (sheet 0).withinReach {7} ∧
              SameOutlook Float (sheet 0) (sheet (-1)) 14 ∧
                ¬ SameOutlook Float (sheet 0) (sheet (-1)) 11 := by
  have config : (sheet 0).config = (sheet (-1)).config := by
    simp [sheet, Lattice.refreshAll]
  have coordination : (sheet 0).coordination = (sheet (-1)).coordination := by
    simp [sheet, Lattice.refreshAll]
  have unchanged :
      ∀ site, site ∉ ({7} : Set Nat) → (sheet 0).AlikeAt (sheet (-1)) site := by
    intro site elsewhere
    rw [Set.mem_singleton_iff, eq_comm] at elsewhere
    apply Lattice.AlikeAt.of_eq
    rw [sheet, sheet, Lattice.refreshAll, Lattice.refreshAll,
      Lattice.site?_refreshMany, Lattice.site?_refreshMany, Lattice.site?_modify,
      Lattice.site?_modify, if_neg elsewhere, if_neg elsewhere]
  have unreached : 14 ∉ (sheet 0).withinReach {7} := by
    rintro (same | ⟨origin, rfl, member⟩)
    · exact absurd same (by decide)
    · exact absurd member (by decide +kernel)
  have outlook :=
    (outlook_one_hop_local (α := Float) config coordination).2 {7} unchanged 14
  refine
    ⟨config, coordination, by decide +kernel, unchanged, unreached,
      outlook unreached, ?_⟩
  intro same
  exact absurd same.occupiedNeighbours (by decide +kernel)

end SurfaceKinetics
