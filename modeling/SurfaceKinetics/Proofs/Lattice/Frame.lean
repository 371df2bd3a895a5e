import SurfaceKinetics.Lattice.Basic

/-!
# What changes and refreshes leave alone

A change of one site is seen at that site only, and a refresh is seen in the
cached counts only.  Every reading of a lattice after changes and refreshes is
brought back to a reading of the lattice before them.
-/

namespace SurfaceKinetics

namespace Lattice

variable (lattice : Lattice)

/-! ## Sites -/

theorem site?_eq_none_iff {site : Nat} :
    lattice.site? site = none ↔ lattice.size ≤ site :=
  Array.getElem?_eq_none_iff

theorem lt_size_of_site?
    {site : Nat}
    {state : Site}
    (found : lattice.site? site = some state) :
    site < lattice.size :=
  (Array.getElem?_eq_some_iff.mp found).1

/-! ## Changes -/

@[simp]
theorem coordination_modify (site : Nat) (change : Site → Site) :
    (lattice.modify site change).coordination = lattice.coordination :=
  rfl

theorem site?_modify (site other : Nat) (change : Site → Site) :
    (lattice.modify site change).site? other =
      if site = other then
        (lattice.site? other).map change
      else
        lattice.site? other :=
  Array.getElem?_modify

theorem modifyAll_cons
    (site : Nat)
    (sites : List Nat)
    (change : Site → Site) :
    lattice.modifyAll (site :: sites) change =
      (lattice.modify site change).modifyAll sites change :=
  rfl

@[simp]
theorem config_modifyAll (sites : List Nat) (change : Site → Site) :
    (lattice.modifyAll sites change).config = lattice.config := by
  induction sites generalizing lattice with
  | nil => rfl
  | cons site sites induction =>
      rw [modifyAll_cons, induction, config_modify]

@[simp]
theorem size_modifyAll (sites : List Nat) (change : Site → Site) :
    (lattice.modifyAll sites change).size = lattice.size := by
  induction sites generalizing lattice with
  | nil => rfl
  | cons site sites induction =>
      rw [modifyAll_cons, induction, size_modify]

@[simp]
theorem coordination_modifyAll (sites : List Nat) (change : Site → Site) :
    (lattice.modifyAll sites change).coordination = lattice.coordination := by
  induction sites generalizing lattice with
  | nil => rfl
  | cons site sites induction =>
      rw [modifyAll_cons, induction, coordination_modify]

@[simp]
theorem counts_modifyAll (sites : List Nat) (change : Site → Site) :
    (lattice.modifyAll sites change).counts = lattice.counts := by
  induction sites generalizing lattice with
  | nil => rfl
  | cons site sites induction =>
      rw [modifyAll_cons, induction, counts_modify]

/-- Sites that are not named stay as they are. -/
theorem site?_modifyAll_of_notMem
    {sites : List Nat}
    {other : Nat}
    (change : Site → Site)
    (absent : other ∉ sites) :
    (lattice.modifyAll sites change).site? other = lattice.site? other := by
  induction sites generalizing lattice with
  | nil => rfl
  | cons site sites induction =>
      rw [List.mem_cons, not_or] at absent
      rw [modifyAll_cons, induction _ absent.2, site?_modify,
        if_neg (Ne.symm absent.1)]

/-- Sites that are named once are changed once. -/
theorem site?_modifyAll
    {sites : List Nat}
    (nodup : sites.Nodup)
    (other : Nat)
    (change : Site → Site) :
    (lattice.modifyAll sites change).site? other =
      if other ∈ sites then
        (lattice.site? other).map change
      else
        lattice.site? other := by
  split
  · next member =>
      induction sites generalizing lattice with
      | nil => cases member
      | cons site sites induction =>
          rw [List.nodup_cons] at nodup
          rw [modifyAll_cons]
          rcases List.mem_cons.mp member with rfl | later
          · rw [site?_modifyAll_of_notMem _ change nodup.1, site?_modify,
              if_pos rfl]
          · have distinct : site ≠ other := by
              intro equal
              exact nodup.1 (equal ▸ later)
            rw [induction _ nodup.2 later, site?_modify, if_neg distinct]
  · next absent => exact site?_modifyAll_of_notMem lattice change absent

/-- Changes of different sites may be made in either order. -/
theorem modify_comm
    {site other : Nat}
    (distinct : site ≠ other)
    (first second : Site → Site) :
    (lattice.modify site first).modify other second =
      (lattice.modify other second).modify site first := by
  have sitesEq :
      (lattice.sites.modify site first).modify other second =
        (lattice.sites.modify other second).modify site first := by
    apply Array.toList_inj.mp
    simp only [Array.toList_modify]
    exact List.modify_modify_ne first second _ distinct
  simp only [modify, sitesEq]

theorem modify_modifyAll_comm
    {site : Nat}
    {sites : List Nat}
    (absent : site ∉ sites)
    (first second : Site → Site) :
    (lattice.modifyAll sites second).modify site first =
      (lattice.modify site first).modifyAll sites second := by
  induction sites generalizing lattice with
  | nil => rfl
  | cons other sites induction =>
      rw [List.mem_cons, not_or] at absent
      rw [modifyAll_cons, modifyAll_cons, induction _ absent.2,
        modify_comm lattice absent.1]

/-! ## Refreshes -/

@[simp]
theorem coordination_refresh (site : Nat) :
    (lattice.refresh site).coordination = lattice.coordination :=
  rfl

/-- Counting does not look at the cached counts. -/
@[simp]
theorem occupiedNeighbours_refresh (site other : Nat) :
    (lattice.refresh site).occupiedNeighbours other =
      lattice.occupiedNeighbours other :=
  rfl

theorem occupiedNeighbours_of_size_le
    {site : Nat}
    (outside : lattice.size ≤ site) :
    lattice.occupiedNeighbours site = 0 := by
  rw [occupiedNeighbours, lattice.site?_eq_none_iff.mpr outside]

theorem cachedCount_of_size_le
    {site : Nat}
    (outside : lattice.size ≤ site) :
    lattice.cachedCount site = 0 := by
  have beyond : lattice.counts.size ≤ site := by
    rw [lattice.size_counts, ← lattice.size_sites]
    exact outside
  rw [cachedCount, Array.getElem?_eq_none beyond, Option.getD_none]

theorem cachedCount_refresh (site other : Nat) :
    (lattice.refresh site).cachedCount other =
      if site = other then
        lattice.occupiedNeighbours other
      else
        lattice.cachedCount other := by
  by_cases equal : site = other
  · subst equal
    rw [if_pos rfl]
    by_cases inside : site < lattice.size
    · have counted : site < lattice.counts.size := by
        rw [lattice.size_counts, ← lattice.size_sites]
        exact inside
      simp [cachedCount, refresh, counted]
    · have outside : lattice.size ≤ site := Nat.le_of_not_lt inside
      rw [cachedCount_of_size_le (lattice.refresh site) outside,
        occupiedNeighbours_of_size_le lattice outside]
  · rw [if_neg equal]
    simp [cachedCount, refresh, equal]

theorem refreshMany_cons (site : Nat) (sites : List Nat) :
    lattice.refreshMany (site :: sites) =
      (lattice.refresh site).refreshMany sites :=
  rfl

@[simp]
theorem sites_refreshMany (sites : List Nat) :
    (lattice.refreshMany sites).sites = lattice.sites := by
  induction sites generalizing lattice with
  | nil => rfl
  | cons site sites induction =>
      rw [refreshMany_cons, induction, sites_refresh]

@[simp]
theorem config_refreshMany (sites : List Nat) :
    (lattice.refreshMany sites).config = lattice.config := by
  induction sites generalizing lattice with
  | nil => rfl
  | cons site sites induction =>
      rw [refreshMany_cons, induction, config_refresh]

@[simp]
theorem coordination_refreshMany (sites : List Nat) :
    (lattice.refreshMany sites).coordination = lattice.coordination := by
  induction sites generalizing lattice with
  | nil => rfl
  | cons site sites induction =>
      rw [refreshMany_cons, induction, coordination_refresh]

@[simp]
theorem site?_refreshMany (sites : List Nat) (other : Nat) :
    (lattice.refreshMany sites).site? other = lattice.site? other := by
  rw [site?, sites_refreshMany, site?]

@[simp]
theorem occupiedNeighbours_refreshMany (sites : List Nat) (other : Nat) :
    (lattice.refreshMany sites).occupiedNeighbours other =
      lattice.occupiedNeighbours other := by
  induction sites generalizing lattice with
  | nil => rfl
  | cons site sites induction =>
      rw [refreshMany_cons, induction, occupiedNeighbours_refresh]

/-- Refreshed sites hold their count, the others what was cached before. -/
theorem cachedCount_refreshMany (sites : List Nat) (other : Nat) :
    (lattice.refreshMany sites).cachedCount other =
      if other ∈ sites then
        lattice.occupiedNeighbours other
      else
        lattice.cachedCount other := by
  induction sites generalizing lattice with
  | nil => simp [refreshMany]
  | cons site sites induction =>
      rw [refreshMany_cons, induction, occupiedNeighbours_refresh,
        cachedCount_refresh]
      by_cases later : other ∈ sites
      · simp [later]
      · by_cases equal : site = other
        · simp [equal]
        · simp [later, equal, Ne.symm equal]

end Lattice

/-! ## All sites -/

/-- A property holds of the states of all sites. -/
def Lattice.Everywhere (property : Site → Prop) (lattice : Lattice) : Prop :=
  ∀ site state, lattice.site? site = some state → property state

/-- A property of all heights is a property of all sites. -/
theorem Lattice.forall_mem_heights_iff
    {property : Int → Prop}
    {lattice : Lattice} :
    (∀ height ∈ lattice.heights, property height) ↔
      lattice.Everywhere fun state => property state.height := by
  rw [heights, List.forall_mem_map]
  constructor
  · intro holds site state found
    rw [site?, ← Array.getElem?_toList] at found
    exact holds state (List.mem_of_getElem? found)
  · intro holds state member
    rcases List.mem_iff_getElem?.mp member with ⟨site, found⟩
    rw [Array.getElem?_toList] at found
    exact holds site state found

/-! ## Faithful caches -/

/-- Every cached count is the number of neighbours that count as occupied. -/
def Lattice.Counted (lattice : Lattice) : Prop :=
  ∀ site, lattice.cachedCount site = lattice.occupiedNeighbours site

theorem Lattice.counted_refreshAll (lattice : Lattice) :
    lattice.refreshAll.Counted := by
  intro site
  rw [refreshAll, cachedCount_refreshMany, occupiedNeighbours_refreshMany]
  split
  · rfl
  · next absent =>
      have outside : lattice.size ≤ site := by
        rw [List.mem_range] at absent
        exact Nat.le_of_not_lt absent
      rw [cachedCount_of_size_le _ outside,
        occupiedNeighbours_of_size_le _ outside]

theorem Lattice.counted_withCoordination
    (lattice : Lattice)
    (coordination : Coordination) :
    (lattice.withCoordination coordination).Counted :=
  counted_refreshAll _

end SurfaceKinetics
