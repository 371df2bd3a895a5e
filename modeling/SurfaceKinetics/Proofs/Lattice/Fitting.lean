import SurfaceKinetics.Proofs.Checks
import SurfaceKinetics.Proofs.Lattice.Seam

/-!
# Heights that fit

The program holds lattices whose heights fit into 32 bits.  A checked change of sites
stops where it would leave a height that does not fit, and changes the lattice as the
exact one does elsewhere.  A checked count of neighbours stops where a threshold at the
seam does not fit; away from a seam there is nothing that could fail.
-/

namespace SurfaceKinetics

/-- The height of a site fits into 32 bits. -/
def Site.Fits (site : Site) : Prop := IsShort site.height

instance (site : Site) : Decidable site.Fits :=
  inferInstanceAs (Decidable (IsShort _))

/-- All heights of a lattice fit into 32 bits. -/
def Lattice.Fits (lattice : Lattice) : Prop :=
  ∀ height ∈ lattice.heights, IsShort height

instance (lattice : Lattice) : Decidable lattice.Fits :=
  inferInstanceAs (Decidable (∀ height ∈ _, IsShort height))

theorem Lattice.fits_iff_everywhere {lattice : Lattice} :
    lattice.Fits ↔ lattice.Everywhere Site.Fits :=
  forall_mem_heights_iff

/-! ## Changes -/

/-- A change of one site is computed by a checked one, where its height fits. -/
def Site.ChecksChange (change? : Site → Option Site) (change : Site → Site) : Prop :=
  ∀ {site : Site}, site.Fits → Checks (change? site) (change site).Fits (change site)

theorem Site.checks_raise (site : Site) (amount : Int) :
    Checks (site.raise? amount) (site.raise amount).Fits (site.raise amount) := by
  have raised :=
    (Checks.short (site.height + amount)).map fun height => { site with height }
  exact raised

theorem Site.checksChange_raise (amount : Int) :
    Site.ChecksChange (Site.raise? · amount) (Site.raise · amount) :=
  fun _ => Site.checks_raise _ amount

/-- Where there is a seam, the seam height is positive. -/
theorem LatticeConfig.IsSeam.seamHeight_pos
    {config : LatticeConfig}
    {lower higher : Nat}
    (seam : config.IsSeam lower higher) :
    0 < config.seamHeight := by
  have stepped := (isLowerEdge_iff.mp seam.1).1
  rw [seamHeight]
  split
  · next flat =>
      rw [flat] at stepped
      cases stepped
  · omega

/--
The sums fit that the threshold of a site at some height is computed from, as seen by
the lower edge of the seam and as seen by the higher one.
-/
structure LatticeConfig.ThresholdFits
    (config : LatticeConfig)
    (site other : Nat)
    (height : Int) : Prop where
  above :
    config.IsSeam site other →
      IsShort (height + config.seamHeight) ∧ IsShort (height + config.seamHeight + 1)
  below :
    ¬ config.IsSeam site other →
      config.IsSeam other site →
        IsShort (height - config.seamHeight) ∧
          IsShort (height - config.seamHeight + 1)

/-- Of a height that fits, the threshold goes out of range at its far end only. -/
theorem LatticeConfig.thresholdFits_iff
    {config : LatticeConfig}
    {site other : Nat}
    {height : Int}
    (short : IsShort height) :
    config.ThresholdFits site other height ↔
      (config.IsSeam site other →
          height + config.seamHeight + 1 ≤ greatestShort) ∧
        (¬ config.IsSeam site other →
          config.IsSeam other site → leastShort ≤ height - config.seamHeight) := by
  have greatestEq : greatestShort = 2147483647 := rfl
  have leastEq : leastShort = -2147483648 := rfl
  rw [isShort_iff] at short
  constructor
  · intro fits
    exact
      ⟨fun seam => (fits.above seam).2.2,
        fun notSeam reversed => (fits.below notSeam reversed).1.1⟩
  · rintro ⟨above, below⟩
    constructor
    · intro seam
      have positive := seam.seamHeight_pos
      have bound := above seam
      rw [isShort_iff, isShort_iff]
      omega
    · intro notSeam reversed
      have positive := reversed.seamHeight_pos
      have bound := below notSeam reversed
      rw [isShort_iff, isShort_iff]
      omega

namespace Lattice

section Changes

variable {lattice : Lattice}

/-- Only what a change does to the state of its site matters. -/
theorem modify_congr
    {site : Nat}
    {change otherChange : Site → Site}
    (same :
      ∀ state, lattice.site? site = some state → change state = otherChange state) :
    lattice.modify site change = lattice.modify site otherChange := by
  have sitesEq : lattice.sites.modify site change =
      lattice.sites.modify site otherChange := by
    apply Array.ext_getElem?
    intro other
    rw [Array.getElem?_modify, Array.getElem?_modify]
    split
    · next equal =>
        subst equal
        exact Option.map_congr same
    · rfl
  simp only [modify, sitesEq]

/-- A change beyond the lattice changes nothing. -/
theorem modify_of_absent
    {site : Nat}
    (absent : lattice.site? site = none)
    (change : Site → Site) :
    lattice.modify site change = lattice := by
  have unchanged : lattice.sites.modify site id = lattice.sites := by
    apply Array.ext_getElem?
    intro other
    rw [Array.getElem?_modify, Option.map_id, id, ite_self]
  have nowhere :
      ∀ state, lattice.site? site = some state → change state = id state :=
    fun _ found => nomatch absent.symm.trans found
  rw [modify_congr nowhere]
  simp only [modify, unchanged]

/-- After a change of one site all heights fit when the height of this one does. -/
theorem Fits.modify_iff
    (fits : lattice.Fits)
    {site : Nat}
    {state : Site}
    (found : lattice.site? site = some state)
    (change : Site → Site) :
    (lattice.modify site change).Fits ↔ (change state).Fits := by
  rw [fits_iff_everywhere] at fits ⊢
  constructor
  · intro after
    refine after site _ ?_
    rw [site?_modify, if_pos rfl, found, Option.map_some]
  · intro changed other otherState otherFound
    rw [site?_modify] at otherFound
    split at otherFound
    · next equal =>
        subst equal
        rw [found, Option.map_some] at otherFound
        cases otherFound
        exact changed
    · exact fits other otherState otherFound

theorem Fits.checks_modify
    (fits : lattice.Fits)
    {change? : Site → Option Site}
    {change : Site → Site}
    (checks : Site.ChecksChange change? change)
    (site : Nat) :
    Checks (lattice.modify? site change?) (lattice.modify site change).Fits
      (lattice.modify site change) := by
  rw [modify?]
  cases found : lattice.site? site with
  | none =>
      rw [modify_of_absent found]
      exact (Checks.some lattice).congr (iff_of_true trivial fits)
  | some state =>
      have changed : Checks (change? state) (change state).Fits (change state) :=
        checks (fits_iff_everywhere.mp fits site state found)
      have same :
          ∀ other, lattice.site? site = some other → change state = change other :=
        fun _ otherFound => by rw [Option.some.inj (found.symm.trans otherFound)]
      rw [fits.modify_iff found, ← modify_congr same]
      exact changed.map fun changed => lattice.modify site fun _ => changed

/-- Changes of other sites do not mend a height that does not fit. -/
theorem Fits.of_modifyAll
    {sites : List Nat}
    {site : Nat}
    (absent : site ∉ sites)
    {change otherChange : Site → Site}
    (fits : lattice.Fits)
    (after : ((lattice.modify site change).modifyAll sites otherChange).Fits) :
    (lattice.modify site change).Fits := by
  cases found : lattice.site? site with
  | none => rwa [modify_of_absent found]
  | some state =>
      rw [fits.modify_iff found]
      refine fits_iff_everywhere.mp after site _ ?_
      rw [site?_modifyAll_of_notMem _ otherChange absent, site?_modify, if_pos rfl,
        found, Option.map_some]

theorem Fits.checks_modifyAll
    (fits : lattice.Fits)
    {change? : Site → Option Site}
    {change : Site → Site}
    (checks : Site.ChecksChange change? change)
    {sites : List Nat}
    (nodup : sites.Nodup) :
    Checks (lattice.modifyAll? sites change?) (lattice.modifyAll sites change).Fits
      (lattice.modifyAll sites change) := by
  induction sites generalizing lattice with
  | nil => exact (Checks.some lattice).congr (iff_of_true trivial fits)
  | cons site sites induction =>
      rcases List.nodup_cons.mp nodup with ⟨absent, nodup⟩
      refine Checks.congr ?_ (and_iff_right_of_imp (Fits.of_modifyAll absent fits))
      exact
        (fits.checks_modify checks site).bind fun between => induction between nodup

/-- Changes that leave heights alone leave heights that fit. -/
theorem Fits.modifyAll_of_level
    (fits : lattice.Fits)
    (sites : List Nat)
    (change : Site → Site)
    (level : ∀ site, (change site).height = site.height) :
    (lattice.modifyAll sites change).Fits := by
  induction sites generalizing lattice with
  | nil => exact fits
  | cons site sites induction =>
      rw [modifyAll_cons]
      apply induction
      cases found : lattice.site? site with
      | none => rwa [modify_of_absent found]
      | some state =>
          rw [fits.modify_iff found, Site.Fits, level]
          exact fits_iff_everywhere.mp fits site state found

end Changes

/-! ## Thresholds -/

section Thresholds

variable (lattice : Lattice)

theorem checks_threshold (site other : Nat) (height : Int) :
    Checks (lattice.threshold? site other height)
      (lattice.config.ThresholdFits site other height)
      (lattice.threshold site other height) := by
  by_cases seam : lattice.config.IsSeam site other
  · rw [threshold?, threshold_of_isSeam seam,
      if_pos (Bool.and_eq_true_iff.mpr seam)]
    refine (Checks.short_add_one _).congr ?_
    exact
      ⟨fun short => ⟨fun _ => short, fun notSeam => absurd seam notSeam⟩,
        fun fits => fits.above seam⟩
  · by_cases reversed : lattice.config.IsSeam other site
    · rw [threshold?, threshold_of_reversed seam reversed,
        if_neg (mt Bool.and_eq_true_iff.mp seam),
        if_pos (Bool.and_eq_true_iff.mpr reversed)]
      refine (Checks.short_add_one _).congr ?_
      exact
        ⟨fun short => ⟨fun isSeam => absurd isSeam seam, fun _ _ => short⟩,
          fun fits => fits.below seam reversed⟩
    · rw [threshold?, threshold_of_not_isSeam seam reversed,
        if_neg (mt Bool.and_eq_true_iff.mp seam),
        if_neg (mt Bool.and_eq_true_iff.mp reversed)]
      refine (Checks.some height).congr (iff_of_true trivial ?_)
      exact ⟨fun isSeam => absurd isSeam seam, fun _ isSeam => absurd isSeam reversed⟩

theorem checks_countsAsOccupied (site other : Nat) (state otherState : Site) :
    Checks (lattice.countsAsOccupied? site other state otherState)
      (lattice.coordination = .height →
        lattice.config.ThresholdFits site other state.height)
      (lattice.countsAsOccupied site other state otherState) := by
  rw [countsAsOccupied?, countsAsOccupied]
  cases coordinationEq : lattice.coordination with
  | occupancy =>
      refine (Checks.some otherState.occupied).congr (iff_of_true trivial ?_)
      rintro ⟨⟩
  | height =>
      refine Checks.congr ?_ (forall_prop_of_true rfl).symm
      exact
        (lattice.checks_threshold site other state.height).map fun threshold : Int =>
          decide (threshold ≤ otherState.height)

/-- Whether a site counts another one as occupied, with a threshold in 32 bits. -/
def sees? (lattice : Lattice) (site other : Nat) : Option Bool :=
  match lattice.site? site, lattice.site? other with
  | some state, some otherState =>
    lattice.countsAsOccupied? site other state otherState
  | _, _ => some false

/-- The lattice counts by the sight of its sites. -/
theorem occupiedNeighbours?_eq_mapM_sees? (site : Nat) :
    lattice.occupiedNeighbours? site =
      ((lattice.neighbours site).mapM (lattice.sees? site)).map (List.countP id) := by
  rw [occupiedNeighbours?]
  cases found : lattice.site? site with
  | none =>
      have beyond := lattice.site?_eq_none_iff.mp found
      rw [neighbours, if_neg (Nat.not_lt.mpr beyond)]
      rfl
  | some state =>
      dsimp only
      congr 2
      funext other
      rw [sees?, found]
      cases lattice.site? other <;> rfl

/-- All thresholds fit that the neighbours of a site are compared with. -/
def CountFits (lattice : Lattice) (site : Nat) : Prop :=
  lattice.coordination = .height →
    ∀ state,
      lattice.site? site = some state →
        ∀ other ∈ lattice.neighbours site,
          lattice.config.ThresholdFits site other state.height

theorem checks_occupiedNeighbours (site : Nat) :
    Checks (lattice.occupiedNeighbours? site) (lattice.CountFits site)
      (lattice.occupiedNeighbours site) := by
  have each :
      ∀ other ∈ lattice.neighbours site,
        Checks (lattice.sees? site other)
          (lattice.coordination = .height →
            ∀ state,
              lattice.site? site = some state →
                lattice.config.ThresholdFits site other state.height)
          (lattice.sees site other) := by
    intro other member
    rcases exists_state (mem_neighbours_iff.mp member).1 with ⟨state, found⟩
    rcases exists_state (lt_size_of_mem_neighbours member) with
      ⟨otherState, otherFound⟩
    have counted := lattice.checks_countsAsOccupied site other state otherState
    rw [sees?, sees, found, otherFound]
    simpa using counted
  have counted := (Checks.mapM each).map (List.countP id)
  rw [List.countP_map] at counted
  rw [occupiedNeighbours?_eq_mapM_sees?, occupiedNeighbours_eq_countP_sees]
  refine counted.congr ?_
  constructor
  · intro fitting byHeight state found other member
    exact fitting other member byHeight state found
  · intro fitting other member byHeight state found
    exact fitting byHeight state found other member

/-! ## Refreshes -/

theorem checks_refresh (site : Nat) :
    Checks (lattice.refresh? site) (lattice.CountFits site) (lattice.refresh site) := by
  have counted :=
    (lattice.checks_occupiedNeighbours site).map fun count =>
      { lattice with
        counts := lattice.counts.setIfInBounds site count
        size_counts := by simp [lattice.size_counts] }
  exact counted

theorem checks_refreshMany (sites : List Nat) :
    Checks (lattice.refreshMany? sites) (∀ site ∈ sites, lattice.CountFits site)
      (lattice.refreshMany sites) := by
  induction sites generalizing lattice with
  | nil => exact (Checks.some lattice).congr (iff_of_true trivial nofun)
  | cons site sites induction =>
      refine Checks.congr ?_ List.forall_mem_cons.symm
      exact (lattice.checks_refresh site).bind fun _ => induction _

/-- Beyond the lattice there is nothing to count. -/
theorem countFits_of_size_le
    {site : Nat}
    (outside : lattice.size ≤ site) :
    lattice.CountFits site := by
  intro _ state found
  exact nomatch (lattice.site?_eq_none_iff.mpr outside).symm.trans found

/-- Without steps there are no thresholds but the heights themselves. -/
theorem countFits_of_flat
    (flat : lattice.config.steps = none)
    (site : Nat) :
    lattice.CountFits site := by
  have seamless : ∀ lower higher, ¬ lattice.config.IsSeam lower higher := by
    intro lower higher seam
    have stepped := (LatticeConfig.isLowerEdge_iff.mp seam.1).1
    rw [flat] at stepped
    cases stepped
  intro _ state _ other _
  exact
    ⟨fun seam => absurd seam (seamless site other),
      fun _ reversed => absurd reversed (seamless other site)⟩

theorem checks_refreshAll :
    Checks lattice.refreshAll? (∀ site, lattice.CountFits site)
      lattice.refreshAll := by
  refine (lattice.checks_refreshMany _).congr ?_
  constructor
  · intro fitting site
    rcases Nat.lt_or_ge site lattice.size with inside | outside
    · exact fitting site (List.mem_range.mpr inside)
    · exact lattice.countFits_of_size_le outside
  · intro fitting site _
    exact fitting site

/-- Counting anew leaves the heights. -/
theorem fits_refreshMany (sites : List Nat) :
    (lattice.refreshMany sites).Fits ↔ lattice.Fits := by
  rw [Fits, heights, sites_refreshMany]
  rfl

/-- Counting anew leaves the thresholds that it is made with. -/
theorem countFits_refreshMany (sites : List Nat) (site : Nat) :
    (lattice.refreshMany sites).CountFits site ↔ lattice.CountFits site := by
  induction sites generalizing lattice with
  | nil => rfl
  | cons first sites induction =>
      rw [refreshMany_cons, induction]
      rfl

theorem checks_withCoordination (coordination : Coordination) :
    Checks (lattice.withCoordination? coordination)
      (∀ site, CountFits { lattice with coordination } site)
      (lattice.withCoordination coordination) :=
  checks_refreshAll _

end Thresholds

end Lattice

end SurfaceKinetics
