import SurfaceKinetics.Proofs.SurfaceProcess.Fitting
import SurfaceKinetics.Proofs.SurfaceProcess.Locality

/-!
# All or nothing

An event is carried out in place: its sites are changed one after the other, and an
error would leave a lattice with the changes made before it.  That never happens.  What
can be missing, the origin or partners, is missed before the first change, and a change
fails only beyond the lattice, where no partner lies.  So the work in place fails with
the lattice untouched, or leaves the effect of the event: on the origin and its partners
what the perform does to them, and nothing anywhere else.  In between the program may
stop, with no lattice left to look at; it does so only at a height that does not fit
into 32 bits.
-/

namespace SurfaceKinetics

/-! ## Exact changes -/

namespace Lattice

theorem size_of_modify?
    {lattice after : Lattice}
    {site : Nat}
    {change? : Site → Option Site}
    (changed : lattice.modify? site change? = some after) :
    after.size = lattice.size := by
  rw [modify?] at changed
  split at changed
  · cases changed
    rfl
  · rcases Option.map_eq_some_iff.mp changed with ⟨state, _, rfl⟩
    exact lattice.size_modify site _

/-- A change that always has a result is the exact one. -/
theorem modify?_some
    (lattice : Lattice)
    (site : Nat)
    (change : Site → Site) :
    lattice.modify? site (fun state => some (change state)) =
      some (lattice.modify site change) := by
  rw [modify?]
  cases found : lattice.site? site with
  | none => rw [modify_of_absent found]
  | some state =>
      refine congrArg some (modify_congr fun other otherFound => ?_)
      cases found.symm.trans otherFound
      rfl

theorem modifyAll?_some
    (lattice : Lattice)
    (sites : List Nat)
    (change : Site → Site) :
    lattice.modifyAll? sites (fun state => some (change state)) =
      some (lattice.modifyAll sites change) := by
  induction sites generalizing lattice with
  | nil => rfl
  | cons site sites induction =>
      rw [modifyAll?, List.foldlM_cons, modify?_some]
      exact induction _

end Lattice

/-! ## Work in place -/

/--
Work on a lattice in place.  An error keeps the changes made before it; when the program
stops, no lattice is left.
-/
abbrev InPlace (α β : Type) : Type :=
  ExceptT (SimulationError α) (StateT Lattice (OptionT (StateM RandomSource))) β

namespace InPlace

variable {α β γ : Type}

/-- What work on a lattice yields, and the lattice that it leaves, unless it stops. -/
def runOn
    (work : InPlace α β)
    (lattice : Lattice)
    (source : RandomSource) :
    Option (Except (SimulationError α) β × Lattice) × RandomSource :=
  ((ExceptT.run work).run lattice).run.run source

/-- The end of the program. -/
def stop : InPlace α β := ExceptT.lift (StateT.lift OptionT.fail)

/-- The state of a site. -/
def readSite (site : Nat) : InPlace α Site := do
  match (← get).getSite site with
  | .error fault => throw (.lattice fault)
  | .ok state => pure state

/-- Changes the state of one site. -/
def changeSite (site : Nat) (change? : Site → Option Site) : InPlace α Unit := do
  match change? (← readSite site) with
  | none => stop
  | some changed => modify fun lattice => lattice.modify site fun _ => changed

/-- Changes the states of several sites, one after the other. -/
def changeSites (sites : List Nat) (change? : Site → Option Site) : InPlace α Unit :=
  sites.forM fun site => changeSite site change?

theorem runOn_bind
    (work : InPlace α β)
    (next : β → InPlace α γ)
    (lattice : Lattice)
    (source : RandomSource) :
    (work >>= next).runOn lattice source =
      match work.runOn lattice source with
      | (none, rest) => (none, rest)
      | (some (.error error, after), rest) => (some (.error error, after), rest)
      | (some (.ok value, after), rest) => (next value).runOn after rest := by
  rw [runOn, runOn, ExceptT.run_bind, StateT.run_bind, OptionT.run_bind, Option.elimM,
    StateT.run_bind]
  rcases ((ExceptT.run work).run lattice).run.run source with
    ⟨_ | ⟨_ | _, after⟩, rest⟩
  · rfl
  · rfl
  · rfl

theorem runOn_lift
    (action : StateM RandomSource β)
    (lattice : Lattice)
    (source : RandomSource) :
    (liftM action : InPlace α β).runOn lattice source =
      (some (.ok (action.run source).1, lattice), (action.run source).2) :=
  rfl

theorem runOn_get (lattice : Lattice) (source : RandomSource) :
    (get : InPlace α Lattice).runOn lattice source =
      (some (.ok lattice, lattice), source) :=
  rfl

theorem runOn_readSite_of_found
    {lattice : Lattice}
    {site : Nat}
    {state : Site}
    (found : lattice.site? site = some state)
    (source : RandomSource) :
    (readSite (α := α) site).runOn lattice source =
      (some (.ok state, lattice), source) := by
  rw [readSite, runOn_bind, runOn_get]
  dsimp only
  rw [Lattice.getSite, found]
  rfl

theorem runOn_readSite_of_absent
    {lattice : Lattice}
    {site : Nat}
    (absent : lattice.site? site = none)
    (source : RandomSource) :
    (readSite (α := α) site).runOn lattice source =
      (some (.error (.lattice (.siteOutOfRange site lattice.size)), lattice),
        source) := by
  rw [readSite, runOn_bind, runOn_get]
  dsimp only
  rw [Lattice.getSite, absent]
  rfl

/-- Work on a lattice leaves another one or stops, and neither fails nor draws. -/
def Changes
    (work : InPlace α Unit)
    (lattice : Lattice)
    (after? : Option Lattice) : Prop :=
  ∀ source,
    work.runOn lattice source = (after?.map fun after => (.ok (), after), source)

theorem Changes.bind
    {first second : InPlace α Unit}
    {lattice : Lattice}
    {between? : Option Lattice}
    {after? : Lattice → Option Lattice}
    (begins : first.Changes lattice between?)
    (continues :
      ∀ between, between? = some between → second.Changes between (after? between)) :
    (first >>= fun _ => second).Changes lattice (between?.bind after?) := by
  intro source
  rw [runOn_bind, begins source]
  cases between? with
  | none => rfl
  | some between => exact continues between rfl source

theorem Changes.andThen
    {first second : InPlace α Unit}
    {lattice between : Lattice}
    {after? : Option Lattice}
    (begins : first.Changes lattice (some between))
    (continues : second.Changes between after?) :
    (first >>= fun _ => second).Changes lattice after? :=
  begins.bind fun _ changed => Option.some.inj changed ▸ continues

theorem changes_changeSite
    {lattice : Lattice}
    {site : Nat}
    (inside : site < lattice.size)
    (change? : Site → Option Site) :
    (changeSite (α := α) site change?).Changes lattice
      (lattice.modify? site change?) := by
  intro source
  have found : lattice.site? site = some lattice.sites[site] :=
    Array.getElem?_eq_getElem inside
  rw [changeSite, runOn_bind, runOn_readSite_of_found found, Lattice.modify?, found]
  dsimp only
  cases change? lattice.sites[site] <;> rfl

theorem changes_changeSites
    {lattice : Lattice}
    {sites : List Nat}
    (inside : ∀ site ∈ sites, site < lattice.size)
    (change? : Site → Option Site) :
    (changeSites (α := α) sites change?).Changes lattice
      (lattice.modifyAll? sites change?) := by
  induction sites generalizing lattice with
  | nil => exact fun _ => rfl
  | cons site sites induction =>
      rcases List.forall_mem_cons.mp inside with ⟨here, later⟩
      refine (changes_changeSite here change?).bind fun between changed => ?_
      apply induction
      rw [Lattice.size_of_modify? changed]
      exact later

end InPlace

namespace Perform

open InPlace

variable {α : Type}

/-! ## An event in place -/

/-- Draws the partners of an event. -/
def choosePartners
    (perform : Perform)
    (origin : Nat)
    (state : Site) :
    InPlace α (List Nat) := do
  let candidates := perform.candidates (← get) origin state
  match ← RandomSource.takeMany perform.partners 0 candidates with
  | .error found =>
    throw (.process (.tooFewPartners origin found perform.partners))
  | .ok chosen => pure chosen

/-- Changes the sites of an event, in the order of the perform. -/
def changeChosen
    (perform : Perform)
    (origin : Nat)
    (chosen : List Nat) :
    InPlace α Unit :=
  match perform with
  | raiseHeight _ => changeSites (origin :: chosen) (Site.raise? · 1)
  | lowerHeight _ => changeSites (origin :: chosen) (Site.raise? · (-1))
  | cover species _ => changeSites (origin :: chosen) fun site => some (site.cover species)
  | uncover _ _ => changeSites (origin :: chosen) fun site => some site.uncover
  | hopHeight => do
    changeSite origin (Site.raise? · (-1))
    changeSites chosen (Site.raise? · 1)
  | hop species => do
    changeSite origin fun site => some site.uncover
    changeSites chosen fun site => some (site.cover species)
  | react _ product grows => do
    changeSites chosen fun site => some site.uncover
    changeSite origin (reacted? product grows)

/-- One event at an origin, which yields the sites that it affects. -/
def executeInPlace (perform : Perform) (origin : Nat) : InPlace α (List Nat) := do
  let state ← readSite origin
  let chosen ← perform.choosePartners origin state
  perform.changeChosen origin chosen
  return (← get).withNeighbours (origin :: chosen)

/-- On sites of the lattice no change fails. -/
theorem changes_changeChosen
    (perform : Perform)
    {lattice : Lattice}
    {origin : Nat}
    {chosen : List Nat}
    (originInside : origin < lattice.size)
    (chosenInside : ∀ site ∈ chosen, site < lattice.size) :
    (perform.changeChosen (α := α) origin chosen).Changes lattice
      (perform.effect? lattice origin chosen) := by
  have inside : ∀ site ∈ origin :: chosen, site < lattice.size :=
    List.forall_mem_cons.mpr ⟨originInside, chosenInside⟩
  cases perform with
  | raiseHeight sites => exact changes_changeSites inside _
  | lowerHeight sites => exact changes_changeSites inside _
  | cover species sites =>
      rw [effect?, effect, ← Lattice.modifyAll?_some]
      exact changes_changeSites inside _
  | uncover species sites =>
      rw [effect?, effect, ← Lattice.modifyAll?_some]
      exact changes_changeSites inside _
  | hopHeight =>
      refine (changes_changeSite originInside _).bind fun lowered changed => ?_
      apply changes_changeSites
      rw [Lattice.size_of_modify? changed]
      exact chosenInside
  | hop species =>
      have freed := changes_changeSite (α := α) originInside fun site => some site.uncover
      rw [Lattice.modify?_some] at freed
      rw [effect?, effect, ← Lattice.modifyAll?_some]
      refine freed.andThen (changes_changeSites ?_ _)
      simpa using chosenInside
  | react partner product grows =>
      have freed := changes_changeSites (α := α) chosenInside fun site => some site.uncover
      rw [Lattice.modifyAll?_some] at freed
      refine freed.andThen (changes_changeSite ?_ _)
      simpa using originInside

theorem runOn_choosePartners
    (perform : Perform)
    (lattice : Lattice)
    (origin : Nat)
    (state : Site)
    (source : RandomSource) :
    (perform.choosePartners (α := α) origin state).runOn lattice source =
      match
        (RandomSource.takeMany perform.partners 0
          (perform.candidates lattice origin state)).run source with
      | (.error found, rest) =>
        (some
            (.error
                (.process (.tooFewPartners origin found perform.partners)),
              lattice),
          rest)
      | (.ok chosen, rest) => (some (.ok chosen, lattice), rest) := by
  rw [choosePartners, runOn_bind, runOn_get]
  dsimp only
  rw [runOn_bind, runOn_lift]
  rcases (RandomSource.takeMany perform.partners 0
      (perform.candidates lattice origin state)).run source with
    ⟨found | chosen, rest⟩
  · rfl
  · rfl

theorem run_execute?_of_found
    (perform : Perform)
    {lattice : Lattice}
    {origin : Nat}
    {state : Site}
    (found : lattice.site? origin = some state)
    (source : RandomSource) :
    (perform.execute? (α := α) lattice origin).run source =
      match
        (RandomSource.takeMany perform.partners 0
          (perform.candidates lattice origin state)).run source with
      | (.error count, rest) =>
        (some (.error (.process (.tooFewPartners origin count perform.partners))),
          rest)
      | (.ok chosen, rest) =>
        ((perform.event? lattice origin chosen).map .ok, rest) := by
  rw [execute?, Lattice.getSite, found]
  change StateT.run (_ >>= _) source = _
  rw [StateT.run_bind]
  rcases (RandomSource.takeMany perform.partners 0
      (perform.candidates lattice origin state)).run source with
    ⟨count | chosen, rest⟩
  · rfl
  · rfl

theorem neighbours_effect
    (perform : Perform)
    (lattice : Lattice)
    (origin : Nat)
    (chosen : List Nat)
    (site : Nat) :
    (perform.effect lattice origin chosen).neighbours site =
      lattice.neighbours site :=
  Lattice.neighbours_eq_of_config (perform.config_effect lattice origin chosen) site

/-- Changes of sites leave the neighbours of all sites. -/
theorem withNeighbours_effect?
    {perform : Perform}
    {lattice after : Lattice}
    (fits : lattice.Fits)
    {origin : Nat}
    {chosen : List Nat}
    (apart : (origin :: chosen).Nodup)
    (changed : perform.effect? lattice origin chosen = some after)
    (sites : List Nat) :
    after.withNeighbours sites = lattice.withNeighbours sites := by
  cases ((perform.checks_effect fits apart).eq_some_iff.mp changed).2
  simp only [Lattice.withNeighbours, neighbours_effect]

/-- Once the partners are drawn, the work in place leaves the whole event. -/
theorem Picks.runOn_event
    {perform : Perform}
    {lattice : Lattice}
    (fits : lattice.Fits)
    {origin : Nat}
    {state : Site}
    {chosen : List Nat}
    (picks : perform.Picks lattice origin state chosen)
    (source : RandomSource) :
    InPlace.runOn (α := α)
        (do
          perform.changeChosen origin chosen
          return (← get).withNeighbours (origin :: chosen))
        lattice source =
      ((perform.event? lattice origin chosen).map fun event =>
          (.ok event.affected, event.lattice),
        source) := by
  have originInside : origin < lattice.size := lattice.lt_size_of_site? picks.found
  have chosenInside : ∀ site ∈ chosen, site < lattice.size := by
    intro site member
    exact Lattice.lt_size_of_mem_neighbours (picks.mem_neighbours member)
  rw [runOn_bind, perform.changes_changeChosen originInside chosenInside, event?]
  cases changed : perform.effect? lattice origin chosen with
  | none => rfl
  | some after =>
      rw [← withNeighbours_effect? fits picks.nodup changed]
      rfl

/-- Work in place leaves the lattice of the event, or the lattice as it was. -/
theorem runOn_executeInPlace
    (perform : Perform)
    {lattice : Lattice}
    (fits : lattice.Fits)
    (origin : Nat)
    (source : RandomSource) :
    (perform.executeInPlace (α := α) origin).runOn lattice source =
      match (perform.execute? lattice origin).run source with
      | (none, rest) => (none, rest)
      | (some (.error error), rest) => (some (.error error, lattice), rest)
      | (some (.ok event), rest) =>
        (some (.ok event.affected, event.lattice), rest) := by
  rw [executeInPlace, runOn_bind]
  cases found : lattice.site? origin with
  | none =>
      rw [runOn_readSite_of_absent found, execute?, Lattice.getSite, found]
      rfl
  | some state =>
      have drawn :=
        RandomSource.takeMany_drawn perform.partners 0
          (perform.candidates lattice origin state) source
      rw [runOn_readSite_of_found found]
      dsimp only
      rw [runOn_bind, runOn_choosePartners, perform.run_execute?_of_found found]
      rcases taken :
          (RandomSource.takeMany perform.partners 0
            (perform.candidates lattice origin state)).run source with
        ⟨count | chosen, rest⟩
      · rfl
      · rw [taken] at drawn
        have picks : perform.Picks lattice origin state chosen := ⟨found, drawn⟩
        dsimp only
        rw [picks.runOn_event fits]
        cases perform.event? lattice origin chosen <;> rfl

end Perform

/-! ## Affected sites in order -/

theorem pairwise_insertSorted
    (number : Nat)
    {sorted : List Nat}
    (increasing : sorted.Pairwise (· < ·)) :
    (insertSorted number sorted).Pairwise (· < ·) := by
  induction sorted with
  | nil => exact List.pairwise_singleton _ _
  | cons first rest induction =>
      rcases List.pairwise_cons.mp increasing with ⟨least, later⟩
      rw [insertSorted]
      split
      · next before =>
          refine List.pairwise_cons.mpr ⟨?_, increasing⟩
          intro other member
          rcases List.mem_cons.mp member with rfl | member
          · exact before
          · exact Nat.lt_trans before (least other member)
      · split
        · exact increasing
        · refine List.pairwise_cons.mpr ⟨?_, induction later⟩
          intro other member
          rcases mem_insertSorted.mp member with rfl | member
          · omega
          · exact least other member

/-- Affected sites are listed once each, in increasing order. -/
theorem Lattice.pairwise_withNeighbours (lattice : Lattice) (sites : List Nat) :
    (lattice.withNeighbours sites).Pairwise (· < ·) :=
  List.foldlRecOn _ _ List.Pairwise.nil fun _ increasing number _ =>
    pairwise_insertSorted number increasing

namespace Perform

/-! ## The frame of an event -/

/--
What an event does to one of its sites, the origin or another one.  Columns move by one
and nothing else of them changes, or the adsorbates change and the columns stay; only a
reaction does both, and only at its origin.
-/
def Alters
    (perform : Perform)
    (atOrigin : Bool)
    (before after : Site) : Prop :=
  let raised := { before with height := before.height + 1 }
  let lowered := { before with height := before.height - 1 }
  let freed := { before with occupied := false, label := before.below }
  let covered (species : String) :=
    { before with occupied := true, label := species, below := before.label }
  match perform with
  | raiseHeight _ => after = raised
  | lowerHeight _ => after = lowered
  | cover species _ => after = covered species
  | uncover _ _ => after = freed
  | hopHeight => after = if atOrigin then lowered else raised
  | hop species => after = if atOrigin then freed else covered species
  | react _ product grows =>
    after =
      if atOrigin then
        { height := before.height + if grows then 1 else 0
          occupied := product.isSome
          label := product.getD before.below
          below := before.below }
      else
        freed

theorem alters_originChange (perform : Perform) (state : Site) :
    perform.Alters true state (perform.originChange state) := by
  cases perform with
  | react partner product grows =>
      cases product <;> cases grows <;>
        simp [Alters, originChange, reacted, Site.raise, Site.cover, Site.uncover]
  | _ => rfl

theorem alters_partnerChange (perform : Perform) (state : Site) :
    perform.Alters false state (perform.partnerChange state) := by
  cases perform <;> rfl

/-- What an event at an origin does, which changes some sites and affects others. -/
structure Happens
    (perform : Perform)
    (lattice : Lattice)
    (origin : Nat)
    (changed affected : List Nat)
    (after : Lattice) : Prop where
  length_eq : changed.length = perform.sites
  nodup : changed.Nodup
  origin_mem : origin ∈ changed
  mem_neighbours :
    ∀ site ∈ changed, site ≠ origin → site ∈ lattice.neighbours origin
  altered :
    ∀ site ∈ changed,
      ∃ state left,
        lattice.site? site = some state ∧
          after.site? site = some left ∧
            perform.Alters (site == origin) state left
  elsewhere : ∀ site ∉ changed, after.site? site = lattice.site? site
  affected_iff :
    ∀ site,
      site ∈ affected ↔
        ∃ other ∈ changed, site = other ∨ site ∈ lattice.neighbours other
  increasing : affected.Pairwise (· < ·)
  config_eq : after.config = lattice.config
  coordination_eq : after.coordination = lattice.coordination
  neighbours_eq : ∀ site, after.neighbours site = lattice.neighbours site
  cachedCount_eq : ∀ site, after.cachedCount site = lattice.cachedCount site

/-- Every event with partners that may be drawn happens on its own sites. -/
theorem Picks.happens
    {perform : Perform}
    {lattice : Lattice}
    {origin : Nat}
    {state : Site}
    {chosen : List Nat}
    (picks : perform.Picks lattice origin state chosen)
    (sitesPos : 0 < perform.sites) :
    perform.Happens lattice origin (origin :: chosen)
      (perform.event lattice origin chosen).affected
      (perform.event lattice origin chosen).lattice where
  length_eq := by
    rw [List.length_cons, picks.length_eq, partners]
    omega
  nodup := picks.nodup
  origin_mem := List.mem_cons_self
  mem_neighbours := by
    intro site member distinct
    exact picks.mem_neighbours (List.mem_of_ne_of_mem distinct member)
  altered := by
    intro site member
    simp only [event]
    rw [perform.site?_effect lattice origin chosen picks.nodup]
    by_cases equal : site = origin
    · subst equal
      rw [if_pos rfl, picks.found, beq_self_eq_true]
      exact ⟨state, _, rfl, rfl, perform.alters_originChange state⟩
    · have partner : site ∈ chosen := List.mem_of_ne_of_mem equal member
      rcases picks.accepted partner with ⟨other, found, _⟩
      rw [if_neg equal, if_pos partner, found, beq_false_of_ne equal]
      exact ⟨other, _, rfl, rfl, perform.alters_partnerChange other⟩
  elsewhere := by
    intro site absent
    rw [List.mem_cons, not_or] at absent
    simp only [event]
    rw [perform.site?_effect lattice origin chosen picks.nodup,
      if_neg absent.1, if_neg absent.2]
  affected_iff := fun _ => Lattice.mem_withNeighbours_iff
  increasing := lattice.pairwise_withNeighbours _
  config_eq := perform.config_effect lattice origin chosen
  coordination_eq := perform.coordination_effect lattice origin chosen
  neighbours_eq := perform.neighbours_effect lattice origin chosen
  cachedCount_eq := by
    intro site
    simp only [event, Lattice.cachedCount, counts_effect]

end Perform

/--
An event that is carried out in place, one site after the other, either fails and
leaves the lattice as it was, or leaves what the event leaves: the origin and
distinct neighbours of it are changed as the perform says, and nothing else is.  The
program stops on the way only for partners with which a height would not fit.
-/
theorem event_all_or_nothing
    {α : Type}
    {perform : Perform}
    (sitesPos : 0 < perform.sites)
    {lattice : Lattice}
    (fits : lattice.Fits)
    (origin : Nat)
    (source : RandomSource) :
    match (perform.executeInPlace (α := α) origin).runOn lattice source with
    | (none, rest) =>
      (perform.execute? (α := α) lattice origin).run source = (none, rest) ∧
        ∃ state chosen,
          perform.Picks lattice origin state chosen ∧
            ¬ (perform.effect lattice origin chosen).Fits
    | (some (.error error, after), rest) =>
      (perform.execute? lattice origin).run source = (some (.error error), rest) ∧
        after = lattice
    | (some (.ok affected, after), rest) =>
      (perform.execute? (α := α) lattice origin).run source =
          (some (.ok { lattice := after, affected }), rest) ∧
        after.Fits ∧
          ∃ changed, perform.Happens lattice origin changed affected after := by
  have surely := perform.execute?_surely (α := α) fits origin source
  rw [perform.runOn_executeInPlace fits]
  rcases executed : (perform.execute? (α := α) lattice origin).run source with
    ⟨_ | error | event, rest⟩
  · rw [executed] at surely
    exact ⟨rfl, surely⟩
  · exact ⟨rfl, rfl⟩
  · rw [executed] at surely
    rcases surely with ⟨afterFits, state, chosen, picks, rfl⟩
    exact ⟨rfl, afterFits, origin :: chosen, picks.happens sitesPos⟩

/-- Nine sites on a level film. -/
def levelLattice : Lattice :=
  Lattice.ofConfig
    { kind := .simpleCubic
      columns := 3
      rows := 3
      initialHeight := 5
      label := "Cu" }

/-- The level film with a pair of adsorbates. -/
def pairedLattice : Lattice := levelLattice.modifyAll [4, 5] (Site.cover · "P")

/-- Work in place at the middle site that leaves an event which fits. -/
def Perform.HappensInPlace (perform : Perform) (lattice : Lattice) : Prop :=
  ∃ affected after rest,
    (perform.executeInPlace (α := Float) 4).runOn lattice (.ofSeed 1) =
        (some (.ok affected, after), rest) ∧
      after.Fits ∧ ∃ changed, perform.Happens lattice 4 changed affected after

theorem event_all_or_nothing_level :
    (levelLattice.Fits ∧ pairedLattice.Fits) ∧
      ((Perform.raiseHeight 3).HappensInPlace levelLattice ∧
          Perform.hopHeight.HappensInPlace levelLattice ∧
            (Perform.cover "P" 2).HappensInPlace levelLattice ∧
              (Perform.uncover "P" 2).HappensInPlace pairedLattice ∧
                (Perform.hop "P").HappensInPlace pairedLattice ∧
                  (Perform.react (some "P") (some "Q") true).HappensInPlace
                    pairedLattice) ∧
        ∃ error rest,
          ((Perform.cover "P" 6).executeInPlace (α := Float) 4).runOn levelLattice
              (.ofSeed 1) =
            (some (.error error, levelLattice), rest) := by
  have levelFits : levelLattice.Fits := by decide +kernel
  have pairedFits : pairedLattice.Fits := by decide +kernel
  have happens :
      ∀ {perform : Perform} {lattice : Lattice},
        0 < perform.sites →
          lattice.Fits →
            (((perform.executeInPlace (α := Float) 4).runOn lattice
                (.ofSeed 1)).1.any fun left => left.1.toOption.isSome) = true →
              perform.HappensInPlace lattice := by
    intro perform lattice sitesPos fits finished
    have left :=
      event_all_or_nothing (α := Float) sitesPos fits 4 (.ofSeed 1)
    rcases ran :
        (perform.executeInPlace (α := Float) 4).runOn lattice (.ofSeed 1) with
      ⟨_ | ⟨error | affected, after⟩, rest⟩
    · rw [ran] at finished
      cases finished
    · rw [ran] at finished
      cases finished
    · rw [ran] at left
      exact ⟨affected, after, rest, ran, left.2⟩
  refine ⟨⟨levelFits, pairedFits⟩, ⟨?_, ?_, ?_, ?_, ?_, ?_⟩, ?_⟩
  · exact happens (by decide) levelFits (by decide +kernel)
  · exact happens (by decide) levelFits (by decide +kernel)
  · exact happens (by decide) levelFits (by decide +kernel)
  · exact happens (by decide) pairedFits (by decide +kernel)
  · exact happens (by decide) pairedFits (by decide +kernel)
  · exact happens (by decide) pairedFits (by decide +kernel)
  · have coverPos : 0 < (Perform.cover "P" 6).sites := by decide
    have untouched :=
      event_all_or_nothing (α := Float) coverPos levelFits 4 (.ofSeed 1)
    have failed :
        ((((Perform.cover "P" 6).executeInPlace (α := Float) 4).runOn levelLattice
            (.ofSeed 1)).1.any fun left => left.1.toOption.isNone) = true := by
      decide +kernel
    rcases ran :
        ((Perform.cover "P" 6).executeInPlace (α := Float) 4).runOn levelLattice
          (.ofSeed 1) with
      ⟨_ | ⟨error | affected, after⟩, rest⟩
    · rw [ran] at failed
      cases failed
    · rw [ran] at untouched
      rw [untouched.2]
      exact ⟨error, rest, rfl⟩
    · rw [ran] at failed
      cases failed

/--
A column of the greatest height is never left higher by one: the program stops, and no
lattice whose heights fit is what the event should leave.
-/
theorem raise_stops_at_greatest_height :
    tallestSites.config.fault? = none ∧
      tallestSites.Fits ∧
        RandomSource.Surely
            ((Perform.raiseHeight 1).execute? (α := Float) tallestSites 0)
            (· = none) ∧
          ∀ changed affected after,
            (Perform.raiseHeight 1).Happens tallestSites 0 changed affected after →
              ¬ after.Fits := by
  have fits : tallestSites.Fits := by decide +kernel
  have found : tallestSites.site? 0 = some (Site.vacant greatestShort "") := by
    decide +kernel
  refine ⟨by decide +kernel, fits, ?_, ?_⟩
  · refine ((Perform.raiseHeight 1).execute?_outcome fits found).mono ?_
    rintro outcome (⟨_, chosen, picks, rfl⟩ | ⟨short, _⟩)
    · refine if_neg fun effectFits => ?_
      have single : 0 < (Perform.raiseHeight 1).sites := Nat.one_pos
      have below :=
        (Perform.fits_effect_iff_of_not_sinks rfl single fits picks).mp effectFits
          Int.one_pos
      exact absurd below (by decide)
    · exact absurd short (Nat.not_lt_zero _)
  · intro changed affected after happens afterFits
    rcases happens.altered 0 happens.origin_mem with
      ⟨state, left, stateFound, leftFound, altered⟩
    cases found.symm.trans stateFound
    have leftFits := Lattice.fits_iff_everywhere.mp afterFits 0 left leftFound
    cases altered
    exact absurd leftFits (by decide)

end SurfaceKinetics
