import SurfaceKinetics.Proofs.SurfaceProcess.Fitting
import SurfaceKinetics.Proofs.SurfaceProcess.Service

/-!
# What an accepted process guarantees

A process is accepted when its rule promises as many sites as its perform
changes, where the perform has a number of sites to be compared.  This settles
how many neighbours there are and not of which kind they are.  Height changes
ask for level neighbours, which every counting rule offers, so there acceptance
is enough.  An accepted process of another kind never fails where its rule holds
just when the rule covers the needs of the perform; the program may still stop at a
height that does not fit.  Otherwise a lattice on which
the rule holds starves the perform: the neighbours of a site are of the kind that
the rule counts and not of the needed one, or higher than the site when the rule
counts none.  Only a rule that asks for more neighbours than there are in any
lattice escapes, since it holds nowhere.
-/

namespace SurfaceKinetics

/-! ## Compared numbers of sites -/

/-- Level neighbours are what every rule with extra sites offers. -/
theorem Rule.offers_of_extraSites_pos
    {rule : Rule}
    (extraPos : 0 < rule.extraSites) :
    rule.offers.count = rule.extraSites ∧
      rule.offers.kind.within .level = true := by
  cases rule with
  | sameHeightNeighbours required => exact ⟨rfl, rfl⟩
  | vacantCluster required => exact ⟨rfl, rfl⟩
  | elevated required => exact ⟨rfl, rfl⟩
  | occupiedBy species required => exact ⟨rfl, rfl⟩
  | _ => cases extraPos

theorem Rule.extraSites_le_offers (rule : Rule) :
    rule.extraSites ≤ rule.offers.count := by
  cases rule with
  | sameHeightNeighbours required => exact Nat.le_refl required
  | vacantCluster required => exact Nat.le_refl required
  | elevated required => exact Nat.le_refl required
  | occupiedBy species required => exact Nat.le_refl required
  | _ => exact Nat.zero_le _

namespace Perform

/-- Whether a perform has a number of sites that is compared with its rule. -/
def comparesSites : Perform → Bool
  | hopHeight => false
  | hop _ => false
  | react .. => false
  | _ => true

/-- The others have one partner at most. -/
theorem partners_le_one
    {perform : Perform}
    (uncompared : perform.comparesSites = false) :
    perform.partners ≤ 1 := by
  cases perform with
  | hopHeight => exact Nat.le_refl 1
  | hop species => exact Nat.le_refl 1
  | react partner product grows => cases partner <;> simp [partners, sites]
  | _ => cases uncompared

end Perform

namespace SurfaceProcess

/-- Where numbers of sites are compared, a rule promises all partners. -/
theorem isConsistent_iff
    {rule : Rule}
    {perform : Perform}
    (compared : perform.comparesSites = true) :
    isConsistent rule perform = true ↔
      1 ≤ perform.sites ∧ rule.extraSites = perform.partners := by
  cases perform with
  | hopHeight => cases compared
  | hop species => cases compared
  | react partner product grows => cases compared
  | lowerHeight sites =>
      by_cases all : rule = .allNeighboursOccupied
      · subst all
        simp only [isConsistent, Rule.extraSites, Perform.partners,
          Perform.sites, beq_iff_eq]
        omega
      · cases rule <;>
          first
          | exact (all rfl).elim
          | simp [isConsistent, Perform.partners, Perform.sites]
  | _ =>
      cases rule <;> simp [isConsistent, Perform.partners, Perform.sites]

/-- Rules cover the needs of every consistent change of heights. -/
theorem cover_of_changesHeights
    {rule : Rule}
    {perform : Perform}
    {sites : Nat}
    (changesHeights :
      perform = .raiseHeight sites ∨ perform = .lowerHeight sites)
    (consistent : isConsistent rule perform = true) :
    rule.offers.Cover perform.needs := by
  have compared : perform.comparesSites = true := by
    rcases changesHeights with rfl | rfl <;> rfl
  have kindEq : perform.needs.kind = .level := by
    rcases changesHeights with rfl | rfl <;> rfl
  have partnersEq := ((isConsistent_iff compared).mp consistent).2.symm
  rcases Nat.eq_zero_or_pos rule.extraSites with none | extraPos
  · exact Or.inl (partnersEq.trans none)
  · rcases Rule.offers_of_extraSites_pos extraPos with ⟨countEq, inside⟩
    rw [← kindEq] at inside
    exact Or.inr ⟨Nat.le_of_eq (partnersEq.trans countEq.symm), inside⟩

/-- Consistent needs outnumber only the offers of rules that count nobody. -/
theorem needs_le_offers_of_isConsistent
    {rule : Rule}
    {perform : Perform}
    (consistent : isConsistent rule perform = true) :
    perform.needs.count ≤ rule.offers.count ∨ rule.offers.count = 0 := by
  cases compared : perform.comparesSites with
  | true =>
      have partnersEq := ((isConsistent_iff compared).mp consistent).2.symm
      have promised := rule.extraSites_le_offers
      exact Or.inl (Nat.le_trans (Nat.le_of_eq partnersEq) promised)
  | false =>
      have leOne := Perform.partners_le_one compared
      rcases Nat.eq_zero_or_pos rule.offers.count with nobody | somebody
      · exact Or.inr nobody
      · exact Or.inl (Nat.le_trans leOne somebody)

theorem checked_eq_ok_iff
    {α : Type}
    [Quantity α]
    (process : SurfaceProcess α) :
    process.checked = .ok process ↔ process.fault? = none := by
  rw [checked]
  cases process.fault? with
  | none => exact iff_of_true rfl rfl
  | some fault =>
      constructor
      · intro accepted
        cases accepted
      · intro faultless
        cases faultless

end SurfaceProcess

/-! ## A lattice that starves a perform -/

namespace Lattice

/-- A site with six equal neighbours. -/
def surrounded (centre around : Site) : Lattice where
  config :=
    { kind := .faceCentred
      columns := 3
      rows := 3
      initialHeight := 1 }
  coordination := .height
  sites :=
    #[centre, around, around, around, around, around, around, around, around]
  counts := Array.replicate 9 0
  size_sites := rfl
  size_counts := rfl

theorem neighbours_surrounded (centre around : Site) :
    (surrounded centre around).neighbours 0 = [1, 2, 3, 6, 7, 5] := by
  have inside : 0 < (surrounded centre around).size := Nat.succ_pos 8
  rw [neighbours, if_pos inside]
  show Grid.neighbours { kind := .faceCentred, columns := 3, rows := 3 } 0 = _
  decide

theorem neighboursWhere_surrounded
    (centre around : Site)
    (test : Site → Bool) :
    (surrounded centre around).neighboursWhere 0 test =
      if test around then [1, 2, 3, 6, 7, 5] else [] := by
  rw [neighboursWhere, neighbours_surrounded]
  cases accepted : test around <;>
    simp [site?, surrounded, accepted]

theorem fits_surrounded {centre around : Site}
    (centreFits : centre.Fits)
    (aroundFits : around.Fits) :
    (surrounded centre around).Fits := by
  intro height member
  simp only [heights, surrounded, List.toList_toArray, List.map_cons,
    List.map_nil, List.mem_cons, List.not_mem_nil, or_false, or_self] at member
  rcases member with rfl | rfl
  · exact centreFits
  · exact aroundFits

theorem occupiedNeighbours_surrounded
    {centre around : Site}
    (asHigh : centre.height ≤ around.height) :
    (surrounded centre around).occupiedNeighbours 0 = 6 := by
  show ((surrounded centre around).neighbours 0).countP _ = 6
  rw [neighbours_surrounded]
  refine List.countP_eq_length.mpr ?_
  intro neighbour member
  simp only [List.mem_cons, List.not_mem_nil, or_false] at member
  rcases member with rfl | rfl | rfl | rfl | rfl | rfl <;>
    exact decide_eq_true asHigh

end Lattice

/-- Every rule admits some state of its site, on a column of height one. -/
theorem Rule.exists_admits (rule : Rule) :
    ∃ state, rule.admits state = true ∧ state.height = 1 := by
  let bare := Site.vacant 1 ""
  cases rule with
  | occupiedBy species required =>
      exact ⟨bare.cover species, beq_self_eq_true species, rfl⟩
  | canHop species => exact ⟨bare.cover species, beq_self_eq_true species, rfl⟩
  | pair first second => exact ⟨bare.cover first, beq_self_eq_true first, rfl⟩
  | _ => exact ⟨bare, rfl, rfl⟩

/-- A rule holds where all neighbours are of the kind that it counts. -/
theorem Rule.holdsAt_surrounded
    {rule : Rule}
    {centre around : Site}
    (admitted : rule.admits centre = true)
    (atMostSix : rule.offers.count ≤ 6)
    (suits :
      rule.offers.count = 0 ∧ centre.height < around.height ∨
        rule.offers.kind.accepts centre around = true) :
    rule.holdsAt (Lattice.surrounded centre around) 0 centre = true := by
  by_cases all : rule = .allNeighboursOccupied
  · subst all
    rcases suits with ⟨_, higher⟩ | offered
    · rw [holdsAt, Lattice.neighbours_surrounded,
        Lattice.occupiedNeighbours_surrounded (Int.le_of_lt higher)]
      rfl
    · cases offered
  · rw [holdsAt_eq_and all, admitted, Lattice.neighboursWhere_surrounded,
      Bool.true_and, decide_eq_true_eq]
    rcases suits with ⟨nobody, _⟩ | offered
    · exact nobody ▸ Nat.zero_le _
    · rw [offered]
      exact atMostSix

/--
A rule that does not cover the needs of a perform holds at a site without any
candidate, unless it offers fewer neighbours than are needed, but some, or more
than there may be.
-/
theorem Rule.exists_starved
    {rule : Rule}
    {perform : Perform}
    (uncovered : ¬ rule.offers.Cover perform.needs)
    (comparable :
      perform.needs.count ≤ rule.offers.count ∨ rule.offers.count = 0)
    (atMostSix : rule.offers.count ≤ 6) :
    ∃ lattice site state,
      lattice.config.fault? = none ∧
        lattice.Fits ∧
          lattice.site? site = some state ∧
            rule.isEligible? lattice site = some true ∧
              perform.candidates lattice site state = [] := by
  rcases rule.exists_admits with ⟨centre, admitted, heightEq⟩
  have around :
      ∃ around : Site,
        (0 ≤ around.height ∧ around.height ≤ 2) ∧
          (rule.offers.count = 0 ∧ centre.height < around.height ∨
            rule.offers.kind.accepts centre around = true) ∧
            perform.needs.kind.accepts centre around = false := by
    rcases comparable with enough | nobody
    · rcases not_or.mp uncovered with ⟨_, mismatched⟩
      have apart : rule.offers.kind.within perform.needs.kind = false := by
        rw [← Bool.not_eq_true]
        exact fun inside => mismatched ⟨enough, inside⟩
      rcases NeighbourKind.exists_accepts_of_not_within apart centre with
        ⟨around, near, offered, refused⟩
      have below := NeighbourKind.height_le_of_accepts offered
      exact ⟨around, by omega, Or.inr offered, refused⟩
    · -- Higher neighbours are of no kind, but they count as occupied.
      let higher := Site.vacant (centre.height + 1) ""
      have above : centre.height < higher.height := Int.lt_succ centre.height
      have twice : higher.height = 2 := congrArg (· + 1) heightEq
      refine ⟨higher, by omega, Or.inl ⟨nobody, above⟩, ?_⟩
      rw [← Bool.not_eq_true]
      intro accepted
      exact
        absurd above
          (Int.not_lt.mpr (NeighbourKind.height_le_of_accepts accepted))
  rcases around with ⟨around, bounded, suits, refused⟩
  let lattice := Lattice.surrounded centre around
  have fits : lattice.Fits := by
    apply Lattice.fits_surrounded
    · rw [Site.Fits, heightEq]
      decide
    · rw [Site.Fits, isShort_iff]
      omega
  have holds : rule.holdsAt lattice 0 centre = true :=
    Rule.holdsAt_surrounded admitted atMostSix suits
  refine ⟨lattice, 0, centre, rfl, fits, rfl, ?_, ?_⟩
  · exact
      (rule.checks_isEligible lattice 0).eq_some_iff.mpr
        ⟨fun _ => lattice.countFits_of_flat rfl 0, holds⟩
  · rw [Perform.candidates, Perform.acceptsPartner_eq,
      Lattice.neighboursWhere_surrounded, refused]
    rfl

/-- No rule holds that asks for more neighbours than a site may have. -/
theorem Rule.offers_le_six
    {rule : Rule}
    {lattice : Lattice}
    {site : Nat}
    {state : Site}
    (holds : rule.holdsAt lattice site state = true) :
    rule.offers.count ≤ 6 :=
  calc
    rule.offers.count ≤
        (lattice.neighboursWhere site
          (rule.offers.kind.accepts state)).length := Rule.offers_le holds
    _ ≤ (lattice.neighbours site).length := List.length_filter_le _ _
    _ ≤ 6 := lattice.length_neighbours_le_six site

/-! ## Accepted processes -/

/-- Where the rule of a process holds, each of its events happens if all of them fit. -/
def SurfaceProcess.Performs {α : Type} (process : SurfaceProcess α) : Prop :=
  ∀ lattice site,
    lattice.config.fault? = none →
      lattice.Fits →
        process.rule.isEligible? lattice site = some true →
          process.perform.EffectsFit lattice site →
            RandomSource.Surely (process.perform.execute? (α := α) lattice site)
              fun outcome => ∃ event, outcome = some (.ok event)

/--
An accepted process performs at every site where its rule holds if the rule
covers the needs of the perform, or holds nowhere; and else it fails on some
lattice.  Every change of heights is covered.  Whatever the rule, an event
happens when there are enough candidates and it leaves heights that fit; when it does
not, the program stops, and without enough candidates the event fails for want of
them.
-/
theorem accepted_process_performs
    {α : Type}
    [Quantity α]
    {process : SurfaceProcess α}
    (accepted : process.checked = .ok process) :
    (process.Performs ↔
        process.rule.offers.Cover process.perform.needs ∨
          6 < process.rule.offers.count) ∧
      (∀ sites,
        process.perform = .raiseHeight sites ∨
            process.perform = .lowerHeight sites →
          process.rule.offers.Cover process.perform.needs) ∧
        ∀ lattice site state,
          lattice.Fits →
            lattice.site? site = some state →
              RandomSource.Surely
                (process.perform.execute? (α := α) lattice site)
                fun outcome =>
                  process.perform.partners ≤
                        (process.perform.candidates lattice site state).length ∧
                      (∃ chosen,
                        process.perform.Picks lattice site state chosen ∧
                          outcome =
                            if
                              (process.perform.effect lattice site chosen).Fits
                            then
                              some
                                (.ok (process.perform.event lattice site chosen))
                            else
                              none) ∨
                    (process.perform.candidates lattice site state).length <
                        process.perform.partners ∧
                      outcome =
                        some
                          (.error
                            (.process
                              (.tooFewPartners site
                                (process.perform.candidates lattice site
                                  state).length
                                process.perform.partners))) := by
  have consistent :=
    SurfaceProcess.isConsistent_of_fault?
      (process.checked_eq_ok_iff.mp accepted)
  refine ⟨⟨?_, ?_⟩, ?_, ?_⟩
  · intro performs
    by_contra neither
    rcases not_or.mp neither with ⟨uncovered, notMore⟩
    have comparable := SurfaceProcess.needs_le_offers_of_isConsistent consistent
    rcases Rule.exists_starved uncovered comparable (Nat.le_of_not_lt notMore)
      with ⟨lattice, site, state, faultless, fits, found, eligible, starved⟩
    have needed := (not_or.mp uncovered).1
    have fails :=
      Perform.execute?_starved (α := α) fits found needed starved
    -- Without candidates there is no event that could leave too great a height.
    have eventless : process.perform.EffectsFit lattice site := by
      intro state' chosen picks
      cases picks.found.symm.trans found
      rcases picks.drawn with ⟨lengthEq, rest, perm⟩
      rw [starved] at perm
      rw [(List.append_eq_nil_iff.mp perm.eq_nil).1] at lengthEq
      exact absurd lengthEq.symm needed
    let source := RandomSource.ofSeed 1
    rcases performs lattice site faultless fits eligible eventless source with
      ⟨event, happens⟩
    rw [fails source] at happens
    cases happens
  · intro covered lattice site faultless fits eligible? effectsFit
    have eligible :=
      ((process.rule.checks_isEligible lattice site).eq_some_iff.mp eligible?).2
    rcases Rule.isEligible_iff.mp eligible with ⟨state, found, holds⟩
    have enough :
        process.perform.partners ≤
          (process.perform.candidates lattice site state).length := by
      rcases covered with cover | more
      · exact Rule.partners_le_of_cover cover holds
      · exact absurd more (Nat.not_lt_of_le (Rule.offers_le_six holds))
    refine (process.perform.execute?_enough fits found enough).mono ?_
    rintro outcome ⟨chosen, picks, rfl⟩
    rw [(picks.checks_event fits).eq_some (effectsFit state chosen picks)]
    exact ⟨_, rfl⟩
  · intro sites changesHeights
    exact SurfaceProcess.cover_of_changesHeights changesHeights consistent
  · intro lattice site state fits found
    exact process.perform.execute?_outcome fits found

/-- An adsorbate that lands on two sites where a rule holds. -/
def pairLanding (rule : Rule) : SurfaceProcess Float :=
  { descriptor :=
      { name := "landing"
        category := .adsorption
        reaction := "A + 2* -> 2A*"
        reactants := ["A", "2*"]
        products := ["2A*"]
        species := ["A"]
        energetics := { values := [1.0], options := [] }
        stoichiometry := none }
    species := "A"
    mode := .label
    rule
    rateLaw := .constant 1.0
    perform := .cover "A" 2 }

/-- A lattice of four level sites. -/
def fourLevelSites : Lattice :=
  Lattice.ofConfig
    { kind := .simpleCubic
      columns := 2
      rows := 2
      initialHeight := 1 }

theorem accepted_process_performs_landing :
    (pairLanding (.vacantCluster 1)).checked =
        .ok (pairLanding (.vacantCluster 1)) ∧
      fourLevelSites.config.fault? = none ∧
        fourLevelSites.Fits ∧
          Rule.isEligible? (.vacantCluster 1) fourLevelSites 0 = some true ∧
            (Perform.cover "A" 2).EffectsFit fourLevelSites 0 ∧
              RandomSource.Surely
                ((Perform.cover "A" 2).execute? (α := Float) fourLevelSites 0)
                (fun outcome => ∃ event, outcome = some (.ok event)) ∧
                (pairLanding (.sameHeightNeighbours 1)).checked =
                    .ok (pairLanding (.sameHeightNeighbours 1)) ∧
                  ¬ (pairLanding (.sameHeightNeighbours 1)).Performs := by
  have vacancies :
      (pairLanding (.vacantCluster 1)).checked =
        .ok (pairLanding (.vacantCluster 1)) :=
    (SurfaceProcess.checked_eq_ok_iff _).mpr (by decide +kernel)
  have levels :
      (pairLanding (.sameHeightNeighbours 1)).checked =
        .ok (pairLanding (.sameHeightNeighbours 1)) :=
    (SurfaceProcess.checked_eq_ok_iff _).mpr (by decide +kernel)
  have faultless : fourLevelSites.config.fault? = none := by decide +kernel
  have fits : fourLevelSites.Fits := by decide +kernel
  have eligible :
      Rule.isEligible? (.vacantCluster 1) fourLevelSites 0 = some true := by
    decide +kernel
  have effectsFit : (Perform.cover "A" 2).EffectsFit fourLevelSites 0 :=
    fun _ _ _ => fits.modifyAll_of_level _ (Site.cover · "A") fun _ => rfl
  have cover :
      (Rule.vacantCluster 1).offers.Cover (Perform.cover "A" 2).needs :=
    Or.inr ⟨Nat.le_refl 1, rfl⟩
  have uncovered :
      ¬ ((Rule.sameHeightNeighbours 1).offers.Cover
            (Perform.cover "A" 2).needs ∨
          6 < (Rule.sameHeightNeighbours 1).offers.count) := by
    rintro ((none | ⟨_, inside⟩) | more)
    · cases none
    · cases inside
    · exact absurd more (by decide)
  have performs := (accepted_process_performs vacancies).1.mpr (Or.inl cover)
  have starves := mt (accepted_process_performs levels).1.mp uncovered
  exact
    ⟨vacancies, faultless, fits, eligible, effectsFit,
      performs fourLevelSites 0 faultless fits eligible effectsFit, levels,
      starves⟩

/-- Four level sites, two of them covered, next to the vacant ones. -/
def crowdedSites : Lattice :=
  fourLevelSites.modifyAll [1, 2] (Site.cover · "B")

/-- Level neighbours that are not vacant do not serve a landing on two sites. -/
theorem accepted_landing_starves :
    (pairLanding (.sameHeightNeighbours 1)).checked =
        .ok (pairLanding (.sameHeightNeighbours 1)) ∧
      crowdedSites.config.fault? = none ∧
        crowdedSites.Fits ∧
          Rule.isEligible? (.sameHeightNeighbours 1) crowdedSites 0 = some true ∧
            RandomSource.Surely
              ((Perform.cover "A" 2).execute? (α := Float) crowdedSites 0)
              fun outcome =>
                outcome = some (.error (.process (.tooFewPartners 0 0 1))) := by
  have accepted :
      (pairLanding (.sameHeightNeighbours 1)).checked =
        .ok (pairLanding (.sameHeightNeighbours 1)) :=
    (SurfaceProcess.checked_eq_ok_iff _).mpr (by decide +kernel)
  have fits : crowdedSites.Fits := by decide +kernel
  have eligible :
      Rule.isEligible? (.sameHeightNeighbours 1) crowdedSites 0 = some true := by
    decide +kernel
  have found : crowdedSites.site? 0 = some (Site.vacant 1 "") := by
    decide +kernel
  have starved :
      (Perform.cover "A" 2).candidates crowdedSites 0 (Site.vacant 1 "") =
        [] := by
    decide +kernel
  exact
    ⟨accepted, by decide +kernel, fits, eligible,
      Perform.execute?_starved fits found (by decide) starved⟩

end SurfaceKinetics
