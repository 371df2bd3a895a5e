import Mathlib.Data.List.Infix
import SurfaceKinetics.Proofs.Lattice.Magnitude
import SurfaceKinetics.Proofs.SurfaceProcess.Effect
import SurfaceKinetics.Proofs.SurfaceProcess.Locality

/-!
# Terraces that do not rise

Terraces of no height make a surface that is as high as a flat one, and whatever
happens to the columns it stays so.  Its seam is a seam nevertheless, with a seam
height of one: the first column overlooks neighbours in the last column that are
level with it or one higher.  All other bonds are seen as on the flat surface, so
the counts of the two surfaces differ in the first column only, and there by the
neighbours that are overlooked.
-/

namespace SurfaceKinetics

/-! ## Changing columns one by one -/

/-- A change of the height of one column. -/
structure HeightChange where
  site : Nat
  amount : Int

namespace Lattice

/-- Changes one column, and counts its neighbours and theirs anew. -/
def regrade (lattice : Lattice) (change : HeightChange) : Lattice :=
  (lattice.modify change.site (Site.raise · change.amount)).refreshMany
    (lattice.withNeighbours [change.site])

/-- Changes one column and counts anew around it, in 32 bits. -/
def regrade? (lattice : Lattice) (change : HeightChange) : Option Lattice := do
  let changed ← lattice.modify? change.site (Site.raise? · change.amount)
  changed.refreshMany? (lattice.withNeighbours [change.site])

/-- Changes several columns, one after the other. -/
def regraded (lattice : Lattice) (changes : List HeightChange) : Lattice :=
  changes.foldl regrade lattice

/-- Changes several columns, one after the other, in 32 bits. -/
def regraded? (lattice : Lattice) (changes : List HeightChange) : Option Lattice :=
  changes.foldlM regrade? lattice

variable {lattice : Lattice}

@[simp]
theorem config_regrade (lattice : Lattice) (change : HeightChange) :
    (lattice.regrade change).config = lattice.config := by
  rw [regrade, config_refreshMany, config_modify]

@[simp]
theorem coordination_regrade (lattice : Lattice) (change : HeightChange) :
    (lattice.regrade change).coordination = lattice.coordination := by
  rw [regrade, coordination_refreshMany, coordination_modify]

@[simp]
theorem config_regraded (lattice : Lattice) (changes : List HeightChange) :
    (lattice.regraded changes).config = lattice.config := by
  induction changes generalizing lattice with
  | nil => rfl
  | cons change changes induction =>
      exact (induction _).trans (config_regrade lattice change)

theorem site?_regrade
    (lattice : Lattice)
    (change : HeightChange)
    (site : Nat) :
    (lattice.regrade change).site? site =
      if change.site = site then
        (lattice.site? site).map (Site.raise · change.amount)
      else
        lattice.site? site := by
  rw [regrade, site?_refreshMany, site?_modify]

/-- What is computed when a column of a lattice is changed. -/
theorem Fits.checks_regrade (fits : lattice.Fits) (change : HeightChange) :
    Checks (lattice.regrade? change)
      ((lattice.regrade change).Fits ∧
        ∀ site ∈ lattice.withNeighbours [change.site],
          (lattice.regrade change).CountFits site)
      (lattice.regrade change) := by
  simp only [regrade, fits_refreshMany, countFits_refreshMany]
  exact
    (fits.checks_modify (Site.checksChange_raise change.amount) change.site).bind
      fun _ => checks_refreshMany _ _

/-- Counting anew around the changed column keeps all caches faithful. -/
theorem Counted.regrade
    (counted : lattice.Counted)
    (change : HeightChange) :
    (lattice.regrade change).Counted := by
  intro site
  rw [Lattice.regrade, cachedCount_refreshMany, occupiedNeighbours_refreshMany]
  split
  · rfl
  · next unaffected =>
    have apart :
        site ≠ change.site ∧ site ∉ lattice.neighbours change.site := by
      rw [mem_withNeighbours_iff] at unaffected
      constructor
      · intro equal
        exact unaffected ⟨_, List.mem_singleton_self _, Or.inl equal⟩
      · intro adjacent
        exact unaffected ⟨_, List.mem_singleton_self _, Or.inr adjacent⟩
    have alike :
        lattice.AlikeAround
          (lattice.modify change.site (Site.raise · change.amount)) site := by
      refine .of_eq rfl rfl ?_ ?_
      · rw [site?_modify, if_neg (Ne.symm apart.1)]
      · intro other member
        rw [site?_modify, if_neg]
        rintro rfl
        exact apart.2 (mem_neighbours_comm.mp member)
    rw [← alike.occupiedNeighbours_eq]
    exact counted site

end Lattice

/-! ## Overlooked neighbours -/

/-- The configuration without terraces. -/
def LatticeConfig.flat (config : LatticeConfig) : LatticeConfig :=
  { config with steps := none }

namespace Lattice

/-- Whether a site does not see another one that is level with it or one higher. -/
def overlooks (lattice : Lattice) (site other : Nat) : Bool :=
  match lattice.site? site, lattice.site? other with
  | some state, some otherState =>
    decide (lattice.config.IsSeam site other) &&
      decide (state.height ≤ otherState.height) &&
        decide (otherState.height ≤ state.height + 1)
  | _, _ => false

/-- How many neighbours a site overlooks across the seam. -/
def overlookedNeighbours (lattice : Lattice) (site : Nat) : Nat :=
  (lattice.neighbours site).countP (lattice.overlooks site)

/-- Only the first column has neighbours to overlook. -/
theorem overlookedNeighbours_eq_zero
    {lattice : Lattice}
    {site : Nat}
    (inside : 0 < lattice.config.grid.columnOf site) :
    lattice.overlookedNeighbours site = 0 := by
  rw [overlookedNeighbours, List.countP_eq_zero]
  intro other _ overlooked
  rw [overlooks] at overlooked
  split at overlooked
  · simp only [Bool.and_eq_true, decide_eq_true_eq] at overlooked
    have first := (Bool.and_eq_true_iff.mp overlooked.1.1.1).2
    rw [beq_iff_eq] at first
    exact absurd first (Nat.ne_of_gt inside)
  · cases overlooked

/-! ## Surfaces of the same columns -/

/--
A surface of level terraces and a flat one have the same columns, counted by height.
-/
structure Mirrors (terraced flat : Lattice) : Prop where
  config : flat.config = terraced.config.flat
  seamHeight : terraced.config.seamHeight = 1
  terracedByHeight : terraced.coordination = .height
  flatByHeight : flat.coordination = .height
  terracedCounted : terraced.Counted
  flatCounted : flat.Counted
  states : ∀ site, terraced.site? site = flat.site? site

namespace Mirrors

variable
    {terraced flat : Lattice}
    (mirrors : terraced.Mirrors flat)

include mirrors

/-- One change keeps the columns of both surfaces the same. -/
theorem regrade (change : HeightChange) :
    (terraced.regrade change).Mirrors (flat.regrade change) where
  config := by rw [config_regrade, config_regrade, mirrors.config]
  seamHeight := by rw [config_regrade, mirrors.seamHeight]
  terracedByHeight := by rw [coordination_regrade, mirrors.terracedByHeight]
  flatByHeight := by rw [coordination_regrade, mirrors.flatByHeight]
  terracedCounted := mirrors.terracedCounted.regrade change
  flatCounted := mirrors.flatCounted.regrade change
  states site := by rw [site?_regrade, site?_regrade, mirrors.states]

theorem regraded (changes : List HeightChange) :
    (terraced.regraded changes).Mirrors (flat.regraded changes) := by
  induction changes generalizing terraced flat with
  | nil => exact mirrors
  | cons change changes induction => exact induction (mirrors.regrade change)

theorem neighbours_eq (site : Nat) :
    terraced.neighbours site = flat.neighbours site := by
  have grid : flat.config.grid = terraced.config.grid := by
    rw [mirrors.config]
    rfl
  rw [neighbours, neighbours, size_eq, size_eq, grid]

/-- A flat surface has no seam. -/
theorem not_isSeam (lower higher : Nat) : ¬ flat.config.IsSeam lower higher := by
  intro seam
  rw [mirrors.config] at seam
  exact absurd seam.1 (by simp [LatticeConfig.isLowerEdge, LatticeConfig.flat])

/-- But for the lower edge, which looks up, columns are compared as they are. -/
theorem threshold_of_not_isSeam
    {site other : Nat}
    (notSeam : ¬ terraced.config.IsSeam site other)
    (height : Int) :
    terraced.threshold site other height = height := by
  by_cases reversed : terraced.config.IsSeam other site
  · rw [threshold_of_reversed notSeam reversed, mirrors.seamHeight]
    exact Int.sub_add_cancel height 1
  · exact Lattice.threshold_of_not_isSeam notSeam reversed height

/-- On the flat surface is seen what on the terraces is seen or overlooked. -/
theorem sees_eq_or (site other : Nat) :
    flat.sees site other =
      (terraced.sees site other || terraced.overlooks site other) := by
  cases found : terraced.site? site with
  | none => simp [sees, overlooks, ← mirrors.states, found]
  | some state =>
      cases otherFound : terraced.site? other with
      | none => simp [sees, overlooks, ← mirrors.states, found, otherFound]
      | some otherState =>
          have flatFound := (mirrors.states site).symm.trans found
          have flatOtherFound := (mirrors.states other).symm.trans otherFound
          have overlooksIff :
              terraced.overlooks site other = true ↔
                (terraced.config.IsSeam site other ∧
                    state.height ≤ otherState.height) ∧
                  otherState.height ≤ state.height + 1 := by
            simp [overlooks, found, otherFound]
          rw [Bool.eq_iff_iff, Bool.or_eq_true, overlooksIff,
            sees_iff_of_not_isSeam mirrors.flatByHeight flatFound
              flatOtherFound (mirrors.not_isSeam _ _) (mirrors.not_isSeam _ _)]
          by_cases seam : terraced.config.IsSeam site other
          · rw [sees_iff_of_isSeam mirrors.terracedByHeight found otherFound
              seam, mirrors.seamHeight]
            simp only [seam, true_and]
            omega
          · rw [sees_iff mirrors.terracedByHeight found otherFound,
              mirrors.threshold_of_not_isSeam seam]
            simp only [seam, false_and, or_false]

theorem not_sees_of_overlooks
    {site other : Nat}
    (overlooked : terraced.overlooks site other = true) :
    terraced.sees site other = false := by
  rw [overlooks] at overlooked
  split at overlooked
  · next state otherState found otherFound =>
    simp only [Bool.and_eq_true, decide_eq_true_eq] at overlooked
    rcases overlooked with ⟨⟨seam, _⟩, near⟩
    rw [Bool.eq_false_iff, ne_eq,
      sees_iff_of_isSeam mirrors.terracedByHeight found otherFound seam,
      mirrors.seamHeight]
    exact Int.not_lt.mpr near
  · cases overlooked

/-- The flat surface counts the neighbours that are seen and the overlooked ones. -/
theorem occupiedNeighbours_eq (site : Nat) :
    flat.occupiedNeighbours site =
      terraced.occupiedNeighbours site + terraced.overlookedNeighbours site := by
  rw [occupiedNeighbours_eq_countP_sees, occupiedNeighbours_eq_countP_sees,
    overlookedNeighbours, ← mirrors.neighbours_eq]
  induction terraced.neighbours site with
  | nil => rfl
  | cons other others induction =>
      rw [List.countP_cons, List.countP_cons, List.countP_cons, induction,
        mirrors.sees_eq_or]
      cases overlooked : terraced.overlooks site other with
      | true =>
          rw [mirrors.not_sees_of_overlooks overlooked]
          simp only [Bool.or_true, if_true, Bool.false_eq_true, if_false]
          omega
      | false =>
          simp only [Bool.or_false, Bool.false_eq_true, if_false]
          omega

theorem cachedCount_eq (site : Nat) :
    flat.cachedCount site =
      terraced.cachedCount site + terraced.overlookedNeighbours site := by
  rw [mirrors.flatCounted, mirrors.terracedCounted,
    mirrors.occupiedNeighbours_eq]

/-- The flat surface fits where the terraces do. -/
theorem fits_iff : terraced.Fits ↔ flat.Fits := by
  rw [fits_iff_everywhere, fits_iff_everywhere]
  simp only [Everywhere, mirrors.states]

/-- No threshold of the flat surface is out of range. -/
theorem countFits (site : Nat) : flat.CountFits site := by
  intro _ state _ other _
  exact
    ⟨fun seam => absurd seam (mirrors.not_isSeam _ _),
      fun _ reversed => absurd reversed (mirrors.not_isSeam _ _)⟩

/-- Whatever changes the terraces in 32 bits changes the flat surface so. -/
theorem regraded?_eq_some
    (fits : terraced.Fits)
    {changes : List HeightChange}
    {after : Lattice}
    (changed : terraced.regraded? changes = some after) :
    after = terraced.regraded changes ∧
      flat.regraded? changes = some (flat.regraded changes) := by
  induction changes generalizing terraced flat with
  | nil =>
      cases changed
      exact ⟨rfl, rfl⟩
  | cons change changes induction =>
      rcases Option.bind_eq_some_iff.mp changed with ⟨between, first, others⟩
      rcases (fits.checks_regrade change).eq_some_iff.mp first with
        ⟨⟨betweenFits, _⟩, rfl⟩
      have next := mirrors.regrade change
      have flatFirst : flat.regrade? change = some (flat.regrade change) :=
        ((mirrors.fits_iff.mp fits).checks_regrade change).eq_some
          ⟨next.fits_iff.mp betweenFits, fun site _ => next.countFits site⟩
      rcases induction next betweenFits others with ⟨afterEq, flatOthers⟩
      refine ⟨afterEq, ?_⟩
      rw [regraded?, List.foldlM_cons, flatFirst]
      exact flatOthers

end Mirrors

/-! ## Room above and below -/

section Room

variable {lattice : Lattice}

/-- No column is so high or so low that the thresholds of level terraces do not fit. -/
def Roomy (lattice : Lattice) : Prop :=
  ∀ height ∈ lattice.heights, leastShort < height ∧ height + 2 ≤ greatestShort

instance (lattice : Lattice) : Decidable lattice.Roomy :=
  inferInstanceAs (Decidable (∀ height ∈ _, _ ∧ _))

theorem Roomy.fits (roomy : lattice.Roomy) : lattice.Fits := by
  intro height member
  rcases roomy height member with ⟨above, below⟩
  exact ⟨Int.le_of_lt above, by omega⟩

/-- With room above and below the thresholds of level terraces fit. -/
theorem Roomy.countFits
    (roomy : lattice.Roomy)
    (level : lattice.config.seamHeight = 1)
    (site : Nat) :
    lattice.CountFits site := by
  intro _ state found other _
  have room :
      leastShort < state.height ∧ state.height + 2 ≤ greatestShort :=
    forall_mem_heights_iff.mp roomy site state found
  have short := fits_iff_everywhere.mp roomy.fits site state found
  rw [LatticeConfig.thresholdFits_iff short, level]
  exact ⟨fun _ => by omega, fun _ _ => by omega⟩

/-- As long as there is room, level terraces are changed in 32 bits. -/
theorem regraded?_of_roomy
    (level : lattice.config.seamHeight = 1)
    {changes : List HeightChange}
    (roomy : ∀ made, made <+: changes → (lattice.regraded made).Roomy) :
    lattice.regraded? changes = some (lattice.regraded changes) := by
  induction changes generalizing lattice with
  | nil => rfl
  | cons change changes induction =>
      have before : lattice.Roomy := roomy [] List.nil_prefix
      have between : (lattice.regrade change).Roomy :=
        roomy [change] (List.prefix_iff_eq_take.mpr rfl)
      have betweenLevel : (lattice.regrade change).config.seamHeight = 1 := by
        rw [config_regrade, level]
      have first : lattice.regrade? change = some (lattice.regrade change) :=
        (before.fits.checks_regrade change).eq_some
          ⟨between.fits, fun site _ => between.countFits betweenLevel site⟩
      rw [regraded?, List.foldlM_cons, first]
      exact
        induction betweenLevel fun made begun =>
          roomy (change :: made) (List.cons_prefix_cons.mpr ⟨rfl, begun⟩)

end Room

end Lattice

/-! ## New surfaces -/

namespace LatticeConfig

variable {config : LatticeConfig}

/-- Without terraces there is less to be at fault. -/
theorem fault?_flat (faultless : config.fault? = none) :
    config.flat.fault? = none :=
  fault?_eq_none_iff.mpr ⟨(fault?_eq_none_iff.mp faultless).1, nofun⟩

variable
    {steps : StepProfile}
    (stepped : config.steps = some steps)
    (level : steps.height = 0)

include stepped level

theorem startHeight_of_level (column : Nat) :
    config.startHeight column = config.initialHeight := by
  rw [startHeight, stepped]
  dsimp only
  rw [level, Int.mul_zero, Int.add_zero]

theorem seamHeight_of_level : config.seamHeight = 1 := by
  rw [seamHeight, stepped]
  dsimp only
  rw [startHeight_of_level stepped level, startHeight_of_level stepped level,
    Int.sub_self]
  rfl

/-- New terraces that do not rise are as high as the flat surface. -/
theorem mirrors_ofConfig :
    (Lattice.ofConfig config).Mirrors (Lattice.ofConfig config.flat) where
  config := by rw [Lattice.config_ofConfig, Lattice.config_ofConfig]
  seamHeight := by
    rw [Lattice.config_ofConfig, seamHeight_of_level stepped level]
  terracedByHeight := Lattice.coordination_ofConfig config
  flatByHeight := Lattice.coordination_ofConfig config.flat
  terracedCounted := Lattice.counted_ofConfig config
  flatCounted := Lattice.counted_ofConfig config.flat
  states site := by
    by_cases inside : site < config.size
    · have flatInside : site < config.flat.size := inside
      rw [Lattice.site?_ofConfig config inside,
        Lattice.site?_ofConfig config.flat flatInside,
        startHeight_of_level stepped level]
      rfl
    · have beyond : (Lattice.ofConfig config).size ≤ site := by
        rw [Lattice.size_ofConfig]
        exact Nat.not_lt.mp inside
      have flatBeyond : (Lattice.ofConfig config.flat).size ≤ site := by
        rw [Lattice.size_ofConfig]
        exact Nat.not_lt.mp inside
      rw [Lattice.site?_eq_none_iff _ |>.mpr beyond,
        Lattice.site?_eq_none_iff _ |>.mpr flatBeyond]

end LatticeConfig

/-- Level terraces with room above and below are built in 32 bits. -/
theorem LatticeConfig.ofConfig?_of_roomy
    {config : LatticeConfig}
    {steps : StepProfile}
    (stepped : config.steps = some steps)
    (level : steps.height = 0)
    (short : IsShort config.initialHeight)
    (roomy : (Lattice.ofConfig config).Roomy) :
    Lattice.ofConfig? config = some (Lattice.ofConfig config) := by
  have starts (column : Nat) : config.StartFits column := by
    intro profile given
    cases stepped.symm.trans given
    rw [level, Int.mul_zero, startHeight_of_level stepped level]
    exact ⟨by decide, short⟩
  apply (checks_ofConfig_parts config).eq_some
  refine ⟨fun column _ => starts column, fun _ => ?_, fun site => ?_⟩
  · rw [SeamHeightFits, seamHeight_of_level stepped level,
      startHeight_of_level stepped level, startHeight_of_level stepped level,
      Int.sub_self]
    exact ⟨starts _, starts _, by decide, by decide, by decide⟩
  · have fits : (Lattice.ofConfig config).CountFits site := by
      apply roomy.countFits
      rw [Lattice.config_ofConfig, seamHeight_of_level stepped level]
    exact (Lattice.countFits_refreshMany _ _ site).mp fits

/-- Without terraces a lattice is built in 32 bits wherever it has no fault. -/
theorem LatticeConfig.ofConfig?_flat
    {config : LatticeConfig}
    (faultless : config.fault? = none) :
    Lattice.ofConfig? config.flat = some (Lattice.ofConfig config.flat) :=
  (checks_ofConfig (fault?_flat faultless)).eq_some fun value computed =>
    absurd computed (not_computes_of_flat rfl value)

/-- New level terraces fit as their first column does. -/
theorem LatticeConfig.fits_of_level
    {config : LatticeConfig}
    {steps : StepProfile}
    (stepped : config.steps = some steps)
    (level : steps.height = 0)
    (short : IsShort config.initialHeight) :
    (Lattice.ofConfig config).Fits := by
  rw [Lattice.fits_iff_everywhere]
  intro site state found
  rw [Site.Fits, height_eq_startHeight found, startHeight_of_level stepped level]
  exact short

/--
Terraces of no height can be built in 32 bits and changed column by column as long as
there is room above and below them.  Whenever that succeeds, the flat surface without
terraces can be built and changed so, too, and both have the same sites; and the flat
surface counts as many neighbours of a site as the terraces do, and those that the site
overlooks across the seam.  The first column alone overlooks any, so all other sites
have the same counts.
-/
theorem level_terraces_flat_but_for_seam
    {config : LatticeConfig}
    {steps : StepProfile}
    (stepped : config.steps = some steps)
    (level : steps.height = 0)
    (faultless : config.fault? = none)
    (short : IsShort config.initialHeight) :
    ∃ builtTerraced builtFlat,
      Lattice.build? config = .ok builtTerraced ∧
        Lattice.build? config.flat = .ok builtFlat ∧
          ∀ changes : List HeightChange,
            ((∀ made,
                made <+: changes → ((Lattice.ofConfig config).regraded made).Roomy) →
              (builtTerraced.value?.bind (·.regraded? changes)).isSome = true) ∧
              ∀ terraced,
                builtTerraced.value?.bind (·.regraded? changes) = some terraced →
                  ∃ flat,
                    builtFlat.value?.bind (·.regraded? changes) = some flat ∧
                      ∀ site,
                        terraced.site? site = flat.site? site ∧
                          flat.cachedCount site =
                              terraced.cachedCount site +
                                terraced.overlookedNeighbours site ∧
                            (0 < config.grid.columnOf site →
                              terraced.cachedCount site = flat.cachedCount site) := by
  rcases LatticeConfig.exists_build? faultless with ⟨built, buildEq, valueEq⟩
  rcases LatticeConfig.exists_build? (LatticeConfig.fault?_flat faultless) with
    ⟨builtFlat, buildFlatEq, valueFlatEq⟩
  refine ⟨built, builtFlat, buildEq, buildFlatEq, fun changes => ?_⟩
  rw [valueEq, valueFlatEq, LatticeConfig.ofConfig?_flat faultless]
  have mirrors := LatticeConfig.mirrors_ofConfig stepped level
  have fits := LatticeConfig.fits_of_level stepped level short
  constructor
  · intro roomy
    rw [LatticeConfig.ofConfig?_of_roomy stepped level short
        (roomy [] List.nil_prefix),
      Option.bind_some, Lattice.regraded?_of_roomy mirrors.seamHeight roomy]
    rfl
  · intro terraced computed
    rcases Option.bind_eq_some_iff.mp computed with ⟨start, started, changed⟩
    have startEq :=
      ((LatticeConfig.checks_ofConfig faultless).eq_some_iff.mp started).2
    subst startEq
    rcases mirrors.regraded?_eq_some fits changed with ⟨rfl, flatChanged⟩
    refine ⟨_, flatChanged, fun site => ?_⟩
    have after := mirrors.regraded changes
    refine ⟨after.states site, after.cachedCount_eq site, fun inside => ?_⟩
    have configEq :
        ((Lattice.ofConfig config).regraded changes).config = config := by
      rw [Lattice.config_regraded, Lattice.config_ofConfig]
    rw [← configEq] at inside
    rw [after.cachedCount_eq, Lattice.overlookedNeighbours_eq_zero inside,
      Nat.add_zero]

/-- A ring of three columns with one terrace, which has no height. -/
def levelRingConfig : LatticeConfig :=
  { kind := .simpleCubic
    columns := 3
    rows := 1
    initialHeight := 5
    steps := some { count := 1, height := 0, depth := 0 } }

/-- The last column of the ring grows and the one before it shrinks. -/
def ringChanges : List HeightChange := [⟨2, 1⟩, ⟨1, -1⟩]

theorem level_terraces_flat_but_for_seam_ring :
    levelRingConfig.steps = some { count := 1, height := 0, depth := 0 } ∧
      levelRingConfig.fault? = none ∧
        IsShort levelRingConfig.initialHeight ∧
          ∃ builtTerraced builtFlat terraced flat,
            Lattice.build? levelRingConfig = .ok builtTerraced ∧
              Lattice.build? levelRingConfig.flat = .ok builtFlat ∧
                builtTerraced.value?.bind (·.regraded? ringChanges) =
                    some terraced ∧
                  builtFlat.value?.bind (·.regraded? ringChanges) = some flat ∧
                    terraced.heights = [5, 4, 6] ∧
                      flat.cachedCount 0 = terraced.cachedCount 0 + 1 ∧
                        terraced.cachedCount 1 = flat.cachedCount 1 := by
  have stepped :
      levelRingConfig.steps = some { count := 1, height := 0, depth := 0 } :=
    rfl
  have faultless : levelRingConfig.fault? = none := by decide
  have short : IsShort levelRingConfig.initialHeight := by decide
  have roomy :
      ∀ made,
        made <+: ringChanges →
          ((Lattice.ofConfig levelRingConfig).regraded made).Roomy := by
    have checked :
        ∀ made ∈ ringChanges.inits,
          ((Lattice.ofConfig levelRingConfig).regraded made).Roomy := by
      decide +kernel
    exact fun made begun => checked made ((List.mem_inits ..).mpr begun)
  rcases level_terraces_flat_but_for_seam stepped rfl faultless short with
    ⟨built, builtFlat, buildEq, buildFlatEq, after⟩
  rcases after ringChanges with ⟨exist, relate⟩
  rcases Option.isSome_iff_exists.mp (exist roomy) with ⟨terraced, computed⟩
  rcases relate terraced computed with ⟨flat, flatComputed, alike⟩
  have terracedEq :
      terraced = (Lattice.ofConfig levelRingConfig).regraded ringChanges := by
    rcases LatticeConfig.exists_build? faultless with ⟨other, otherEq, valueEq⟩
    cases buildEq.symm.trans otherEq
    rw [valueEq,
      LatticeConfig.ofConfig?_of_roomy stepped rfl short (roomy [] List.nil_prefix),
      Option.bind_some] at computed
    have mirrors := LatticeConfig.mirrors_ofConfig stepped rfl
    have fits := LatticeConfig.fits_of_level stepped rfl short
    exact (mirrors.regraded?_eq_some fits computed).1
  have heights : terraced.heights = [5, 4, 6] := by
    rw [terracedEq]
    decide +kernel
  have overlooked : terraced.overlookedNeighbours 0 = 1 := by
    rw [terracedEq]
    decide +kernel
  have first := (alike 0).2.1
  rw [overlooked] at first
  exact
    ⟨stepped, faultless, short, built, builtFlat, terraced, flat, buildEq,
      buildFlatEq, computed, flatComputed, heights, first,
      (alike 1).2.2 (by decide)⟩

/-- One terrace of no height hides the last column of a ring from the first one. -/
theorem level_terrace_hides_last_column :
    levelRingConfig.fault? = none ∧
      (Lattice.ofConfig levelRingConfig).heights =
          (Lattice.ofConfig levelRingConfig.flat).heights ∧
        (Lattice.ofConfig levelRingConfig.flat).cachedCount 0 = 2 ∧
          (Lattice.ofConfig levelRingConfig).cachedCount 0 = 1 := by
  decide +kernel

end SurfaceKinetics
