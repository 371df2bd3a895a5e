import SurfaceKinetics.Proofs.Simulation.Step
import SurfaceKinetics.Proofs.SurfaceProcess.Locality

/-!
# Coherent runs

A run is coherent when its cached counts and its event table are what a count of
all sites and an evaluation of all pairs would give.  Bringing both up to date
at the affected sites of an event keeps a run coherent: a site that is not
affected has neither changed nor a changed neighbour, since neighbourhood is
mutual, and rules and rates look no further than one hop.

The table alone stays current even where cached counts are not faithful, as long
as it holds the rates at the cached counts.
-/

namespace SurfaceKinetics

/-! ## Caches -/

theorem Lattice.eq_of_parts
    {left right : Lattice}
    (config : left.config = right.config)
    (coordination : left.coordination = right.coordination)
    (sites : left.sites = right.sites)
    (counts : left.counts = right.counts) :
    left = right := by
  cases left
  cases right
  cases config
  cases coordination
  cases sites
  cases counts
  rfl

/-- Faithful caches are determined by the sites. -/
theorem Lattice.Counted.eq
    {left right : Lattice}
    (leftCounted : left.Counted)
    (rightCounted : right.Counted)
    (config : left.config = right.config)
    (coordination : left.coordination = right.coordination)
    (sites : left.sites = right.sites) :
    left = right := by
  apply eq_of_parts config coordination sites
  apply Array.ext
  · rw [left.size_counts, right.size_counts, config]
  · intro site leftInside rightInside
    have alike : left.AlikeAround right site := by
      apply AlikeAround.of_eq config coordination
      · rw [site?, site?, sites]
      · intro neighbour _
        rw [site?, site?, sites]
    have equal : left.cachedCount site = right.cachedCount site := by
      rw [leftCounted site, rightCounted site, alike.occupiedNeighbours_eq]
    rw [cachedCount, cachedCount, Array.getElem?_eq_getElem leftInside,
      Array.getElem?_eq_getElem rightInside] at equal
    exact equal

/-! ## Tables -/

namespace EventTable

variable {α : Type}

/-- The table with given entries. -/
def tabulate
    (size : Nat)
    (processes : List (SurfaceProcess α))
    (entryAt : SurfaceProcess α → Nat → Option α) :
    EventTable α :=
  { rows := processes.map fun process =>
      (Array.range size).map (entryAt process) }

theorem tabulate_congr
    {size : Nat}
    {processes : List (SurfaceProcess α)}
    {first second : SurfaceProcess α → Nat → Option α}
    (equal :
      ∀ process ∈ processes, ∀ site < size,
        first process site = second process site) :
    tabulate size processes first = tabulate size processes second := by
  rw [tabulate, tabulate, EventTable.mk.injEq]
  apply List.map_congr_left
  intro process member
  apply Array.map_congr_left
  intro site siteMember
  exact equal process member site (Array.mem_range.mp siteMember)

variable [Quantity α]

theorem build_eq_tabulate
    (conditions : Conditions α)
    (processes : List (SurfaceProcess α))
    (lattice : Lattice) :
    build conditions processes lattice =
      tabulate lattice.size processes (entry conditions lattice) :=
  rfl

/-- Evaluating one site anew replaces its entries. -/
theorem refreshSite_tabulate
    (conditions : Conditions α)
    (processes : List (SurfaceProcess α))
    (lattice : Lattice)
    (size site : Nat)
    (entryAt : SurfaceProcess α → Nat → Option α) :
    refreshSite conditions processes lattice
        (tabulate size processes entryAt) site =
      tabulate size processes fun process other =>
        if site = other then
          entry conditions lattice process other
        else
          entryAt process other := by
  rw [refreshSite, tabulate, tabulate, EventTable.mk.injEq,
    List.zipWith_map_right, List.zipWith_self]
  apply List.map_congr_left
  intro process _
  apply Array.ext_getElem?
  intro other
  rw [Array.getElem?_setIfInBounds]
  by_cases inside : other < size
  · by_cases equal : site = other
    · simp [equal, inside]
    · simp [equal, inside]
  · by_cases equal : site = other
    · simp [equal, inside]
    · simp [equal, inside]

/-- Evaluating some sites anew replaces their entries. -/
theorem update_tabulate
    (conditions : Conditions α)
    (processes : List (SurfaceProcess α))
    (lattice : Lattice)
    (size : Nat)
    (sites : List Nat)
    (entryAt : SurfaceProcess α → Nat → Option α) :
    update conditions processes lattice
        (tabulate size processes entryAt) sites =
      tabulate size processes fun process other =>
        if other ∈ sites then
          entry conditions lattice process other
        else
          entryAt process other := by
  induction sites generalizing entryAt with
  | nil => simp [update]
  | cons site sites induction =>
      show
        update conditions processes lattice
            (refreshSite conditions processes lattice
              (tabulate size processes entryAt) site) sites = _
      rw [refreshSite_tabulate, induction]
      apply tabulate_congr
      intro process _ other _
      by_cases later : other ∈ sites
      · simp [later]
      · by_cases equal : site = other
        · simp [equal]
        · simp [later, equal, Ne.symm equal]

/-- A table is brought up to date at the sites where entries may differ. -/
theorem update_build
    {conditions : Conditions α}
    {processes : List (SurfaceProcess α)}
    {before after : Lattice}
    {sites : List Nat}
    (size : before.size = after.size)
    (unchanged :
      ∀ process ∈ processes, ∀ site ∉ sites,
        entry conditions before process site =
          entry conditions after process site) :
    update conditions processes after
        (build conditions processes before) sites =
      build conditions processes after := by
  rw [build_eq_tabulate, update_tabulate, build_eq_tabulate, size]
  apply tabulate_congr
  intro process member site _
  split
  · rfl
  · next absent => exact unchanged process member site absent

/-- The live pairs of a built table are the eligible ones. -/
theorem mem_pairs_build_iff
    {conditions : Conditions α}
    {processes : List (SurfaceProcess α)}
    {lattice : Lattice}
    {pair : LivePair α} :
    pair ∈ (build conditions processes lattice).pairs ↔
      ∃ process,
        processes[pair.process]? = some process ∧
          process.rule.isEligible lattice pair.site = true ∧
            pair.rate = process.rate conditions lattice pair.site := by
  have enteredIff :
      ∀ process : SurfaceProcess α,
        ((Array.range lattice.size).map
            (entry conditions lattice process))[pair.site]? =
              some (some pair.rate) ↔
          process.rule.isEligible lattice pair.site = true ∧
            pair.rate = process.rate conditions lattice pair.site := by
    intro process
    rw [Array.getElem?_map]
    by_cases inside : pair.site < lattice.size
    · rw [Array.getElem?_range, if_pos inside, Option.map_some, Option.some_inj,
        entry]
      split
      · next eligible => simp [eligible, eq_comm]
      · next barred => simp [barred]
    · have outside := lattice.site?_eq_none_iff.mpr (Nat.le_of_not_lt inside)
      simp [inside, Rule.isEligible, outside]
  simp only [mem_pairs_iff, build, List.getElem?_map, Option.map_eq_some_iff,
    ← enteredIff]
  constructor
  · rintro ⟨_, ⟨process, found, rfl⟩, entered⟩
    exact ⟨process, found, entered⟩
  · rintro ⟨process, found, entered⟩
    exact ⟨_, ⟨process, found, rfl⟩, entered⟩

end EventTable

/-! ## Sites that are not affected -/

namespace Perform.Picks

variable
    {perform : Perform}
    {lattice : Lattice}
    {origin : Nat}
    {state : Site}
    {chosen : List Nat}
    (picks : perform.Picks lattice origin state chosen)
    {site : Nat}
    (unaffected : site ∉ lattice.withNeighbours (origin :: chosen))

include picks unaffected

/-- An event is not seen from sites that it does not affect. -/
theorem alikeAround :
    lattice.AlikeAround (perform.effect lattice origin chosen) site := by
  have unchanged :
      ∀ other,
        other ∉ origin :: chosen →
          lattice.site? other =
            (perform.effect lattice origin chosen).site? other := by
    intro other absent
    rw [List.mem_cons, not_or] at absent
    rw [perform.site?_effect lattice origin chosen picks.nodup,
      if_neg absent.1, if_neg absent.2]
  rw [Lattice.mem_withNeighbours_iff] at unaffected
  apply Lattice.AlikeAround.of_eq
  · simp
  · simp
  · apply unchanged
    intro changed
    exact unaffected ⟨site, changed, Or.inl rfl⟩
  · intro neighbour member
    apply unchanged
    intro changed
    have back : site ∈ lattice.neighbours neighbour :=
      Lattice.mem_neighbours_comm.mp member
    exact unaffected ⟨neighbour, changed, Or.inr back⟩

end Perform.Picks

/-! ## Runs -/

namespace Run

variable {α : Type} [Quantity α]

/-- Caches and table are what counting and evaluating everything would give. -/
structure Coherent (run : Run α) : Prop where
  counted : run.lattice.Counted
  table_eq :
    run.table =
      EventTable.build run.scenario.conditions run.scenario.processes
        run.lattice

/-- The table is what evaluating all pairs with the cached counts would give. -/
def Current (run : Run α) : Prop :=
  run.table =
    EventTable.build run.scenario.conditions run.scenario.processes run.lattice

theorem Coherent.current {run : Run α} (coherent : run.Coherent) :
    run.Current :=
  coherent.table_eq

/-- The live pairs of a current table are the eligible ones. -/
theorem Current.mem_pairs_iff
    {run : Run α}
    (current : run.Current)
    {pair : LivePair α} :
    pair ∈ run.table.pairs ↔
      ∃ process,
        run.scenario.processes[pair.process]? = some process ∧
          process.rule.isEligible run.lattice pair.site = true ∧
            pair.rate =
              process.rate run.scenario.conditions run.lattice pair.site := by
  rw [Current] at current
  rw [current, EventTable.mem_pairs_build_iff]

/-- The process of a live pair is eligible at its site. -/
theorem Coherent.eligible
    {run : Run α}
    (coherent : run.Coherent)
    {process : SurfaceProcess α}
    {pair : LivePair α}
    (processEq : run.scenario.processes[pair.process]? = some process)
    (live : pair ∈ run.table.pairs) :
    process.rule.isEligible run.lattice pair.site = true := by
  rcases coherent.current.mem_pairs_iff.mp live with
    ⟨other, found, eligible, _⟩
  have equal : process = other := Option.some.inj (processEq.symm.trans found)
  rw [equal]
  exact eligible

/-- The rule of a step holds in the state of its site. -/
theorem Moves.holdsAt
    {run next : Run α}
    {process : SurfaceProcess α}
    {pair : LivePair α}
    {state : Site}
    {chosen : List Nat}
    (moves : run.Moves process pair state chosen next)
    (coherent : run.Coherent) :
    process.rule.holdsAt run.lattice pair.site state = true := by
  have eligible := coherent.eligible moves.process_eq moves.live
  rw [Rule.isEligible, moves.picks.found] at eligible
  exact eligible

/-- Counts all sites and evaluates all pairs anew after an event. -/
def recount (run : Run α) (event : Event) : Run α :=
  let lattice := event.lattice.refreshAll
  { run with
    lattice
    table :=
      EventTable.build run.scenario.conditions run.scenario.processes lattice }

theorem coherent_recount (run : Run α) (event : Event) :
    (run.recount event).Coherent :=
  { counted := event.lattice.counted_refreshAll
    table_eq := rfl }

section Absorb

variable
    {run : Run α}
    {perform : Perform}
    {origin : Nat}
    {state : Site}
    {chosen : List Nat}
    (picks : perform.Picks run.lattice origin state chosen)

/-- Cached counts change at affected sites only. -/
theorem cachedCount_absorb_of_unaffected
    {site : Nat}
    (unaffected : site ∉ run.lattice.withNeighbours (origin :: chosen)) :
    (run.absorb (perform.event run.lattice origin chosen)).lattice.cachedCount
        site =
      run.lattice.cachedCount site := by
  rw [absorb, Perform.event, Lattice.cachedCount_refreshMany,
    if_neg unaffected, Lattice.cachedCount, Lattice.cachedCount,
    Perform.counts_effect]

include picks

/-- Entries change at affected sites only. -/
theorem entry_absorb_of_unaffected
    (process : SurfaceProcess α)
    {site : Nat}
    (unaffected : site ∉ run.lattice.withNeighbours (origin :: chosen)) :
    EventTable.entry run.scenario.conditions run.lattice process site =
      EventTable.entry run.scenario.conditions
        (run.absorb (perform.event run.lattice origin chosen)).lattice
        process site := by
  have alike :
      run.lattice.AlikeAround
        (run.absorb (perform.event run.lattice origin chosen)).lattice
        site :=
    (picks.alikeAround unaffected).refreshMany _
  rw [EventTable.entry, EventTable.entry, process.rule.isEligible_eq alike,
    SurfaceProcess.rate, SurfaceProcess.rate,
    cachedCount_absorb_of_unaffected unaffected]

/-- Bringing a current table up to date at the affected sites is enough. -/
theorem Current.absorb (current : run.Current) :
    (run.absorb (perform.event run.lattice origin chosen)).Current := by
  have sizeEq :
      run.lattice.size =
        (run.absorb (perform.event run.lattice origin chosen)).lattice.size := by
    rw [Lattice.size_eq, Lattice.size_eq]
    simp [Run.absorb, Perform.event]
  rw [Current] at current
  show EventTable.update _ _ _ run.table _ = _
  rw [current]
  apply EventTable.update_build sizeEq
  intro process _ site unaffected
  exact entry_absorb_of_unaffected picks process unaffected

variable (coherent : run.Coherent)

include coherent

/-- Counts at the affected sites make all counts faithful. -/
theorem counted_absorb :
    (run.absorb (perform.event run.lattice origin chosen)).lattice.Counted := by
  intro site
  by_cases affected : site ∈ run.lattice.withNeighbours (origin :: chosen)
  · rw [absorb, Perform.event, Lattice.cachedCount_refreshMany,
      Lattice.occupiedNeighbours_refreshMany, if_pos affected]
  · rw [cachedCount_absorb_of_unaffected affected, coherent.counted site]
    exact
      ((picks.alikeAround affected).refreshMany _).occupiedNeighbours_eq

theorem lattice_absorb_eq_recount :
    (run.absorb (perform.event run.lattice origin chosen)).lattice =
      (run.recount (perform.event run.lattice origin chosen)).lattice := by
  apply (counted_absorb picks coherent).eq (coherent_recount run _).counted
  · simp [absorb, recount, Lattice.refreshAll]
  · simp [absorb, recount, Lattice.refreshAll]
  · simp [absorb, recount, Lattice.refreshAll]

/-- Bringing up to date at the affected sites equals starting anew. -/
theorem absorb_eq_recount :
    run.absorb (perform.event run.lattice origin chosen) =
      run.recount (perform.event run.lattice origin chosen) := by
  have tableEq :
      (run.absorb (perform.event run.lattice origin chosen)).table =
        EventTable.build run.scenario.conditions run.scenario.processes
          (run.absorb (perform.event run.lattice origin chosen)).lattice :=
    coherent.current.absorb picks
  have latticeEq := lattice_absorb_eq_recount picks coherent
  rw [latticeEq] at tableEq
  calc
    run.absorb (perform.event run.lattice origin chosen) =
        { run with
          lattice :=
            (run.absorb (perform.event run.lattice origin chosen)).lattice
          table :=
            (run.absorb (perform.event run.lattice origin chosen)).table } :=
      rfl
    _ = run.recount (perform.event run.lattice origin chosen) := by
      rw [tableEq, latticeEq]
      rfl

end Absorb

/-- A step keeps a run coherent. -/
theorem Moves.coherent
    {run next : Run α}
    {process : SurfaceProcess α}
    {pair : LivePair α}
    {state : Site}
    {chosen : List Nat}
    (moves : run.Moves process pair state chosen next)
    (coherent : run.Coherent) :
    next.Coherent := by
  have recounted :=
    run.coherent_recount (process.perform.event run.lattice pair.site chosen)
  rw [← absorb_eq_recount moves.picks coherent] at recounted
  constructor
  · rw [moves.lattice_eq]
    exact recounted.counted
  · rw [moves.table_eq, moves.lattice_eq, moves.scenario_eq]
    exact recounted.table_eq

/-- A step keeps a table current, whatever the caches hold. -/
theorem Moves.current
    {run next : Run α}
    {process : SurfaceProcess α}
    {pair : LivePair α}
    {state : Site}
    {chosen : List Nat}
    (moves : run.Moves process pair state chosen next)
    (current : run.Current) :
    next.Current := by
  rw [Current, moves.table_eq, moves.lattice_eq, moves.scenario_eq]
  exact current.absorb moves.picks

/-- What is reached from the start of a run has a current table. -/
theorem Reaches.current
    {scenario : Scenario α}
    {random : RandomSource}
    {run : Run α}
    (reached : (start scenario random).Reaches run) :
    run.Current := by
  induction reached with
  | refl => rfl
  | moved earlier step induction =>
      rcases advance_moved step with ⟨state, chosen, moves⟩
      exact moves.current induction

/-- What is reached from a coherent run is coherent. -/
theorem Reaches.coherent
    {first run : Run α}
    (reached : first.Reaches run)
    (coherent : first.Coherent) :
    run.Coherent := by
  induction reached with
  | refl => exact coherent
  | moved earlier step induction =>
      rcases advance_moved step with ⟨state, chosen, moves⟩
      exact moves.coherent induction

/-- A run starts coherent on a lattice with faithful caches. -/
theorem coherent_start
    {scenario : Scenario α}
    (counted : scenario.lattice.Counted)
    (random : RandomSource) :
    (start scenario random).Coherent :=
  { counted
    table_eq := rfl }

end Run

end SurfaceKinetics
