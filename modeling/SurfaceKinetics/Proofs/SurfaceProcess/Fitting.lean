import SurfaceKinetics.Proofs.Lattice.Fitting
import SurfaceKinetics.Proofs.SurfaceProcess.Supply

/-!
# Events that fit

On a lattice whose heights fit an event is carried out in 32 bits exactly when all
heights fit that it leaves.  Then it is the exact event; otherwise the program stops.
Only raised columns at the greatest height and lowered ones at the least are in the way,
so events that leave heights alone always take place.
-/

namespace SurfaceKinetics

namespace Perform

/-! ## Effects -/

theorem checksChange_reacted (product : Option String) (grows : Bool) :
    Site.ChecksChange (reacted? product grows) (reacted product grows) := by
  intro site fits
  rw [reacted?]
  cases grows with
  | false =>
      refine (Checks.some (reacted product false site)).congr (iff_of_true trivial ?_)
      cases product <;> exact fits
  | true => exact (reacted product false site).checks_raise 1

section Effects

variable
    (perform : Perform)
    {lattice : Lattice}
    (fits : lattice.Fits)
    {origin : Nat}
    {chosen : List Nat}
    (apart : (origin :: chosen).Nodup)

include fits apart

/-- An effect is computed exactly when all heights fit that it leaves. -/
theorem checks_effect :
    Checks (perform.effect? lattice origin chosen)
      (perform.effect lattice origin chosen).Fits
      (perform.effect lattice origin chosen) := by
  rcases List.nodup_cons.mp apart with ⟨absent, nodup⟩
  cases perform with
  | raiseHeight sites => exact fits.checks_modifyAll (Site.checksChange_raise 1) apart
  | lowerHeight sites => exact fits.checks_modifyAll (Site.checksChange_raise (-1)) apart
  | cover species sites =>
      have covered : ((cover species sites).effect lattice origin chosen).Fits :=
        fits.modifyAll_of_level _ (Site.cover · species) fun _ => rfl
      exact (Checks.some _).congr (iff_of_true trivial covered)
  | uncover species sites =>
      have freed : ((uncover species sites).effect lattice origin chosen).Fits :=
        fits.modifyAll_of_level _ Site.uncover fun _ => rfl
      exact (Checks.some _).congr (iff_of_true trivial freed)
  | hopHeight =>
      refine Checks.congr ?_ (and_iff_right_of_imp (Lattice.Fits.of_modifyAll absent fits))
      exact
        (fits.checks_modify (Site.checksChange_raise (-1)) origin).bind fun lowered =>
          lowered.checks_modifyAll (Site.checksChange_raise 1) nodup
  | hop species =>
      have freed : (lattice.modify origin Site.uncover).Fits :=
        fits.modifyAll_of_level [origin] Site.uncover fun _ => rfl
      have covered : ((hop species).effect lattice origin chosen).Fits :=
        freed.modifyAll_of_level _ (Site.cover · species) fun _ => rfl
      exact (Checks.some _).congr (iff_of_true trivial covered)
  | react partner product grows =>
      have freed : (lattice.modifyAll chosen Site.uncover).Fits :=
        fits.modifyAll_of_level chosen Site.uncover fun _ => rfl
      exact freed.checks_modify (checksChange_reacted product grows) origin

end Effects

/-- An event of drawn partners is computed exactly when its effect fits. -/
theorem Picks.checks_event
    {perform : Perform}
    {lattice : Lattice}
    {origin : Nat}
    {state : Site}
    {chosen : List Nat}
    (picks : perform.Picks lattice origin state chosen)
    (fits : lattice.Fits) :
    Checks (perform.event? lattice origin chosen)
      (perform.effect lattice origin chosen).Fits
      (perform.event lattice origin chosen) := by
  have changed :=
    (perform.checks_effect fits picks.nodup).map fun changed : Lattice =>
      ({ lattice := changed
         affected := lattice.withNeighbours (origin :: chosen) } : Event)
  exact changed

/-- After an effect all heights fit when those of the changed sites do. -/
theorem fits_effect_iff
    (perform : Perform)
    {lattice : Lattice}
    (fits : lattice.Fits)
    {origin : Nat}
    {state : Site}
    {chosen : List Nat}
    (picks : perform.Picks lattice origin state chosen) :
    (perform.effect lattice origin chosen).Fits ↔
      (perform.originChange state).Fits ∧
        ∀ site ∈ chosen,
          ∀ other,
            lattice.site? site = some other → (perform.partnerChange other).Fits := by
  simp only [Lattice.fits_iff_everywhere, Lattice.Everywhere,
    perform.site?_effect lattice origin chosen picks.nodup] at fits ⊢
  have absent := (List.nodup_cons.mp picks.nodup).1
  constructor
  · intro after
    refine ⟨after origin _ ?_, fun site member other found => after site _ ?_⟩
    · rw [if_pos rfl, picks.found, Option.map_some]
    · have distinct : site ≠ origin := fun equal => absent (equal ▸ member)
      rw [if_neg distinct, if_pos member, found, Option.map_some]
  · rintro ⟨originFits, partnersFit⟩ site after found
    split at found
    · next equal =>
        rw [equal, picks.found, Option.map_some] at found
        cases found
        exact originFits
    · split at found
      · next member =>
          rcases Option.map_eq_some_iff.mp found with ⟨other, otherFound, rfl⟩
          exact partnersFit site member other otherFound
      · exact fits site after found

/-- A perform that lowers a column. -/
def sinks : Perform → Bool
  | lowerHeight _ => true
  | hopHeight => true
  | _ => false

/-- An event that lowers nothing fits unless it raises columns of the greatest height. -/
theorem fits_effect_iff_of_not_sinks
    {perform : Perform}
    (rises : perform.sinks = false)
    (sitesPos : 0 < perform.sites)
    {lattice : Lattice}
    (fits : lattice.Fits)
    {origin : Nat}
    {state : Site}
    {chosen : List Nat}
    (picks : perform.Picks lattice origin state chosen) :
    (perform.effect lattice origin chosen).Fits ↔
      (0 < perform.heightChange → state.height < greatestShort) := by
  have fitting := Lattice.fits_iff_everywhere.mp fits
  have stateFits : state.Fits := fitting origin state picks.found
  have raisedIff : (state.raise 1).Fits ↔ state.height < greatestShort := by
    have below : (state.raise 1).height = state.height + 1 := rfl
    have greatestEq : greatestShort = 2147483647 := rfl
    rw [Site.Fits, isShort_iff] at stateFits
    rw [Site.Fits, isShort_iff, below]
    omega
  -- What changes no height cannot leave one that is too great.
  have level {least : Prop} (raises : (0 : Int) < 0) : least :=
    absurd raises (Int.lt_irrefl 0)
  rw [perform.fits_effect_iff fits picks]
  cases perform with
  | lowerHeight sites => cases rises
  | hopHeight => cases rises
  | raiseHeight sites =>
      have raises : 0 < (raiseHeight sites).heightChange := Int.natCast_pos.mpr sitesPos
      rw [forall_prop_of_true raises, ← raisedIff]
      refine and_iff_left_of_imp fun raised site member other found => ?_
      rcases picks.accepted member with ⟨sameOther, sameFound, accepted⟩
      cases found.symm.trans sameFound
      have sameHeight : other.height = state.height := eq_of_beq accepted
      change IsShort (other.height + 1)
      rw [sameHeight]
      exact raised
  | cover species sites =>
      exact iff_of_true ⟨stateFits, fun site _ => fitting site⟩ level
  | uncover species sites =>
      exact iff_of_true ⟨stateFits, fun site _ => fitting site⟩ level
  | hop species =>
      exact iff_of_true ⟨stateFits, fun site _ => fitting site⟩ level
  | react partner product grows =>
      have partnersFit :
          ∀ site ∈ chosen, ∀ other,
            lattice.site? site = some other →
              ((react partner product grows).partnerChange other).Fits :=
        fun site _ => fitting site
      rw [and_iff_left partnersFit]
      cases grows with
      | false => cases product <;> exact iff_of_true stateFits level
      | true =>
          have raises : 0 < (react partner product true).heightChange := Int.one_pos
          rw [forall_prop_of_true raises, ← raisedIff]
          cases product <;> rfl

/-! ## Execution -/

variable {α : Type}

/-- What an event comes to, unless it leaves a height that does not fit. -/
def fitting? :
    Except (SimulationError α) Event → Option (Except (SimulationError α) Event)
  | .error error => some (.error error)
  | .ok event => if event.lattice.Fits then some (.ok event) else none

/-- Executing an event in 32 bits is executing it, and stopping if it does not fit. -/
theorem execute?_eq_map
    (perform : Perform)
    {lattice : Lattice}
    (fits : lattice.Fits)
    (origin : Nat) :
    perform.execute? (α := α) lattice origin =
      fitting? <$> perform.execute lattice origin := by
  funext source
  rw [execute?, execute, Lattice.getSite]
  cases found : lattice.site? origin with
  | none => rfl
  | some state =>
      have drawn :=
        RandomSource.takeMany_drawn perform.partners 0
          (perform.candidates lattice origin state) source
      change StateT.run (_ >>= _) source = StateT.run (_ <$> (_ >>= _)) source
      rw [StateT.run_map, StateT.run_bind, StateT.run_bind]
      rcases taken :
          (RandomSource.takeMany perform.partners 0
            (perform.candidates lattice origin state)).run source with
        ⟨count | chosen, rest⟩
      · rfl
      · rw [taken] at drawn
        have picks : perform.Picks lattice origin state chosen := ⟨found, drawn⟩
        have computed := (picks.checks_event fits).eq_ite
        change
          (Option.map Except.ok (perform.event? lattice origin chosen), rest) =
            (fitting? (.ok (perform.event lattice origin chosen)), rest)
        rw [computed, apply_ite (Option.map Except.ok)]
        rfl

/--
In 32 bits an event has the effect of partners that it may draw, or it fails, or the
program stops since the effect does not fit.
-/
theorem execute?_surely
    (perform : Perform)
    {lattice : Lattice}
    (fits : lattice.Fits)
    (origin : Nat) :
    RandomSource.Surely (perform.execute? (α := α) lattice origin) fun outcome =>
      match outcome with
      | none =>
        ∃ state chosen,
          perform.Picks lattice origin state chosen ∧
            ¬ (perform.effect lattice origin chosen).Fits
      | some (.error error) => perform.Fails lattice origin error
      | some (.ok event) =>
        event.lattice.Fits ∧
          ∃ state chosen,
            perform.Picks lattice origin state chosen ∧
              event = perform.event lattice origin chosen := by
  rw [perform.execute?_eq_map fits]
  refine ((perform.execute_surely lattice origin).mono ?_).map
  intro outcome result
  match outcome with
  | .error error => exact result
  | .ok event =>
      rcases result with ⟨state, chosen, picks, rfl⟩
      rw [fitting?]
      by_cases effectFits : (perform.event lattice origin chosen).lattice.Fits
      · rw [if_pos effectFits]
        exact ⟨effectFits, state, chosen, picks, rfl⟩
      · rw [if_neg effectFits]
        exact ⟨state, chosen, picks, effectFits⟩

/-- The events of a perform at an origin leave heights that fit. -/
def EffectsFit (perform : Perform) (lattice : Lattice) (origin : Nat) : Prop :=
  ∀ state chosen,
    perform.Picks lattice origin state chosen →
      (perform.effect lattice origin chosen).Fits

/--
In 32 bits an event happens when there are enough candidates and it fits, the program
stops when it does not fit, and it fails without enough candidates.
-/
theorem execute?_outcome
    (perform : Perform)
    {lattice : Lattice}
    (fits : lattice.Fits)
    {origin : Nat}
    {state : Site}
    (found : lattice.site? origin = some state) :
    RandomSource.Surely (perform.execute? (α := α) lattice origin) fun outcome =>
      perform.partners ≤ (perform.candidates lattice origin state).length ∧
          (∃ chosen,
            perform.Picks lattice origin state chosen ∧
              outcome =
                if (perform.effect lattice origin chosen).Fits then
                  some (.ok (perform.event lattice origin chosen))
                else
                  none) ∨
        (perform.candidates lattice origin state).length < perform.partners ∧
          outcome =
            some
              (.error
                (.process
                  (.tooFewPartners origin
                    (perform.candidates lattice origin state).length
                    perform.partners))) := by
  rw [perform.execute?_eq_map fits]
  refine ((perform.execute_outcome found).mono ?_).map
  rintro outcome (⟨enough, chosen, picks, rfl⟩ | ⟨short, rfl⟩)
  · exact Or.inl ⟨enough, chosen, picks, rfl⟩
  · exact Or.inr ⟨short, rfl⟩

/-- With enough candidates an event is the one of the partners drawn, if that fits. -/
theorem execute?_enough
    (perform : Perform)
    {lattice : Lattice}
    (fits : lattice.Fits)
    {origin : Nat}
    {state : Site}
    (found : lattice.site? origin = some state)
    (enough : perform.partners ≤ (perform.candidates lattice origin state).length) :
    RandomSource.Surely (perform.execute? (α := α) lattice origin) fun outcome =>
      ∃ chosen,
        perform.Picks lattice origin state chosen ∧
          outcome = (perform.event? lattice origin chosen).map Except.ok := by
  refine (perform.execute?_outcome fits found).mono ?_
  rintro outcome (⟨_, chosen, picks, rfl⟩ | ⟨short, _⟩)
  · refine ⟨chosen, picks, ?_⟩
    rw [(picks.checks_event fits).eq_ite, apply_ite (Option.map Except.ok)]
    rfl
  · exact absurd short (Nat.not_lt_of_le enough)

/-- Without any candidate an event that needs partners fails. -/
theorem execute?_starved
    {perform : Perform}
    {lattice : Lattice}
    (fits : lattice.Fits)
    {origin : Nat}
    {state : Site}
    (found : lattice.site? origin = some state)
    (needed : perform.partners ≠ 0)
    (starved : perform.candidates lattice origin state = []) :
    RandomSource.Surely (perform.execute? (α := α) lattice origin) fun outcome =>
      outcome =
        some
          (.error (.process (.tooFewPartners origin 0 perform.partners))) := by
  have outcomes := perform.execute?_outcome (α := α) fits found
  rw [starved] at outcomes
  refine outcomes.mono ?_
  rintro outcome (⟨enough, _⟩ | ⟨_, fails⟩)
  · exact absurd (Nat.le_zero.mp enough) needed
  · exact fails

end Perform

/-- A lattice of two columns of the greatest height. -/
def tallestSites : Lattice :=
  Lattice.ofConfig
    { kind := .simpleCubic
      columns := 2
      rows := 1
      initialHeight := greatestShort }

/-! ## Rules -/

/-- A rule is decided unless it asks for a count whose thresholds do not fit. -/
theorem Rule.checks_isEligible (rule : Rule) (lattice : Lattice) (site : Nat) :
    Checks (rule.isEligible? lattice site)
      (rule = .allNeighboursOccupied → lattice.CountFits site)
      (rule.isEligible lattice site) := by
  cases rule with
  | allNeighboursOccupied =>
      refine Checks.congr ?_ (forall_prop_of_true rfl).symm
      have counted :=
        (lattice.checks_occupiedNeighbours site).map fun _ =>
          Rule.allNeighboursOccupied.isEligible lattice site
      exact counted
  | _ => exact (Checks.some _).congr (iff_of_true trivial nofun)

end SurfaceKinetics
