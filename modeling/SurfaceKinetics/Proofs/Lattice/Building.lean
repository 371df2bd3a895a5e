import Mathlib.Tactic.SplitIfs
import SurfaceKinetics.Proofs.Lattice.Frame

/-!
# New lattices

A lattice is built from every configuration that has no fault.  It is vacant, each
column has the height at which it starts, and the neighbours are counted by height;
whatever the coordination is changed to, they have been counted anew.
-/

namespace SurfaceKinetics

theorem LatticeConfig.fault?_eq_none_iff {config : LatticeConfig} :
    config.fault? = none ↔
      ¬ (config.columns = 0 ∨ config.rows = 0) ∧
        ∀ profile,
          config.steps = some profile →
            ¬ (profile.count = 0 ∨ ¬ profile.count ∣ config.columns) := by
  rw [fault?]
  split_ifs with empty
  · exact iff_of_false nofun (fun proper => proper.1 empty)
  · rw [and_iff_right empty]
    cases config.steps with
    | none => exact iff_of_true rfl nofun
    | some steps =>
        simp only [Nat.dvd_iff_mod_eq_zero]
        split_ifs with uneven
        · exact iff_of_false nofun (fun proper => proper steps rfl uneven)
        · refine iff_of_true rfl ?_
          rintro _ ⟨⟩
          exact uneven

namespace Lattice

/-- Building succeeds where the configuration has no fault. -/
theorem exists_build
    {config : LatticeConfig}
    (faultless : config.fault? = none) :
    ∃ built, build config = .ok built ∧ built.value = ofConfig config := by
  rw [build, faultless]
  exact ⟨_, rfl, rfl⟩

@[simp]
theorem config_ofConfig (config : LatticeConfig) :
    (ofConfig config).config = config := by
  rw [ofConfig, refreshAll, config_refreshMany, uncounted]

@[simp]
theorem coordination_ofConfig (config : LatticeConfig) :
    (ofConfig config).coordination = .height := by
  rw [ofConfig, refreshAll, coordination_refreshMany, uncounted]

@[simp]
theorem size_ofConfig (config : LatticeConfig) :
    (ofConfig config).size = config.size := by
  have sized := (ofConfig config).size_sites
  rw [config_ofConfig] at sized
  exact sized

theorem counted_ofConfig (config : LatticeConfig) : (ofConfig config).Counted :=
  counted_refreshAll _

/-- The sites of a new lattice are vacant and as high as their columns start. -/
theorem site?_ofConfig
    (config : LatticeConfig)
    {site : Nat}
    (inside : site < config.size) :
    (ofConfig config).site? site =
      some
        (Site.vacant (config.startHeight (site % config.columns))
          config.label) := by
  rw [ofConfig, refreshAll, site?_refreshMany, site?, uncounted]
  simp [startSites, inside]

theorem config_new (config : LatticeConfig) (coordination : Coordination) :
    ((ofConfig config).withCoordination coordination).config = config := by
  simp [withCoordination, refreshAll]

/-- New lattices are vacant, in whatever coordination. -/
theorem site?_new
    {config : LatticeConfig}
    {coordination : Coordination}
    {site : Nat}
    {state : Site}
    (found :
      ((ofConfig config).withCoordination coordination).site? site =
        some state) :
    ∃ height, state = Site.vacant height config.label := by
  have inside := lt_size_of_site? _ found
  rw [size, Lattice.size_sites, config_new] at inside
  rw [withCoordination, refreshAll, site?_refreshMany] at found
  change (ofConfig config).site? site = some state at found
  rw [site?_ofConfig config inside, Option.some.injEq] at found
  exact ⟨_, found.symm⟩

end Lattice

end SurfaceKinetics
