import SurfaceKinetics.Proofs.Random.Possible
import SurfaceKinetics.Proofs.SurfaceProcess.Fitting
import SurfaceKinetics.Proofs.SurfaceProcess.Locality
import SurfaceKinetics.Proofs.SurfaceProcess.Service

/-!
# Undoing an event

Lowering undoes raising, and uncovering undoes covering where the label below a
vacant site is the one on top.  The rules of such desorptions count exactly the
sites that the landing leaves around its origin: the partners stay level with it and
hold what it holds.  So the desorption is possible at the origin, may choose the
same partners in any order, and then leaves every site as it was before.
-/

namespace SurfaceKinetics

/-! ## Possible choices -/

/-- Partners that an event may draw are drawn if the right words come next. -/
theorem Perform.Picks.canYield
    {α : Type}
    {perform : Perform}
    {lattice : Lattice}
    {origin : Nat}
    {state : Site}
    {chosen : List Nat}
    (picks : perform.Picks lattice origin state chosen) :
    RandomSource.CanYield (perform.execute (α := α) lattice origin)
      (.ok (perform.event lattice origin chosen)) := by
  have few :
      (perform.candidates lattice origin state).length ≤ twoTo 64 :=
    calc
      (perform.candidates lattice origin state).length
          ≤ (lattice.neighbours origin).length := List.length_filter_le _ _
      _ ≤ 6 := lattice.length_neighbours_le_six origin
      _ ≤ twoTo 64 := by decide
  rw [execute, Lattice.getSite, picks.found]
  exact
    (RandomSource.canYield_takeMany few picks.drawn 0).bind
      (RandomSource.CanYield.pure _)

/-- In 32 bits they are drawn too, and the event happens if it fits. -/
theorem Perform.Picks.canYield_execute?
    {α : Type}
    {perform : Perform}
    {lattice : Lattice}
    (fits : lattice.Fits)
    {origin : Nat}
    {state : Site}
    {chosen : List Nat}
    (picks : perform.Picks lattice origin state chosen)
    (effectFits : (perform.effect lattice origin chosen).Fits) :
    RandomSource.CanYield (perform.execute? (α := α) lattice origin)
      (some (.ok (perform.event lattice origin chosen))) := by
  have yields := (picks.canYield (α := α)).map fitting?
  rw [← perform.execute?_eq_map fits] at yields
  have eventFits : (perform.event lattice origin chosen).lattice.Fits := effectFits
  rwa [fitting?, if_pos eventFits] at yields

theorem Perform.Picks.site?_effect_origin
    {perform : Perform}
    {lattice : Lattice}
    {origin : Nat}
    {state : Site}
    {chosen : List Nat}
    (picks : perform.Picks lattice origin state chosen) :
    (perform.effect lattice origin chosen).site? origin =
      some (perform.originChange state) := by
  rw [site?_effect _ _ _ _ picks.nodup, if_pos rfl, picks.found]
  rfl

/-! ## Performs that undo performs -/

/-- A vacant site is labelled with what lies below. -/
def Site.Clean (site : Site) : Prop :=
  site.occupied = false → site.label = site.below

/-- The rule and the perform of a desorption that undo the perform of a landing. -/
inductive Undoes : Rule → Perform → Perform → Prop where
  | lower (extra : Nat) :
      Undoes (.elevated extra) (.lowerHeight (extra + 1))
        (.raiseHeight (extra + 1))
  | uncover (species : String) (extra : Nat) :
      Undoes (.occupiedBy species extra) (.uncover species (extra + 1))
        (.cover species (extra + 1))

/-- Whether a perform finds room at a site.  Only covering needs any. -/
def Perform.hasRoom : Perform → Site → Bool
  | cover .. => fun site => !site.occupied
  | _ => fun _ => true

/-- A served perform finds room at its origin where the rule holds. -/
theorem Rule.Serves.hasRoom_origin
    {rule : Rule}
    {perform : Perform}
    (serves : rule.Serves perform)
    {lattice : Lattice}
    {origin : Nat}
    {state : Site}
    (holds : rule.holdsAt lattice origin state = true) :
    perform.hasRoom state = true := by
  cases serves with
  | cover species => exact holds
  | coverCluster species extra => exact (Bool.and_eq_true_iff.mp holds).1
  | _ => rfl

theorem Perform.hasRoom_partner
    {perform : Perform}
    {state other : Site}
    (accepted : perform.acceptsPartner state other = true) :
    perform.hasRoom other = true := by
  cases perform with
  | cover species sites => exact (Bool.and_eq_true_iff.mp accepted).2
  | _ => rfl

namespace Undoes

variable
    {rule : Rule}
    {leaving landing : Perform}
    (undoes : Undoes rule leaving landing)

include undoes

theorem sites_eq : leaving.sites = landing.sites := by
  cases undoes <;> rfl

theorem heightChange_eq : leaving.heightChange = -landing.heightChange := by
  cases undoes <;> rfl

theorem offers_eq : rule.offers = leaving.needs := by
  cases undoes <;> rfl

theorem rule_ne : rule ≠ .allNeighboursOccupied := by
  cases undoes <;> exact Rule.noConfusion

/-- A landing does to its partners what it does to its origin. -/
theorem partnerChange_landing : landing.partnerChange = landing.originChange := by
  cases undoes <;> rfl

theorem partnerChange_leaving : leaving.partnerChange = leaving.originChange := by
  cases undoes <;> rfl

/-! ### Single sites -/

/-- Where there was room, leaving restores the state before landing. -/
theorem originChange_originChange
    {site : Site}
    (room : landing.hasRoom site = true)
    (clean : site.Clean) :
    leaving.originChange (landing.originChange site) = site := by
  rcases site with ⟨height, occupied, label, below⟩
  cases undoes with
  | lower extra =>
      simp only [Perform.originChange, Site.raise, Site.mk.injEq, and_self,
        and_true]
      omega
  | uncover species extra =>
      have vacant : occupied = false := by simpa [Perform.hasRoom] using room
      subst vacant
      have labelEq : label = below := clean rfl
      subst labelEq
      rfl

/-- Partners of a landing are partners of the leaving that undoes it. -/
theorem acceptsPartner
    {state other : Site}
    (accepted : landing.acceptsPartner state other = true) :
    leaving.acceptsPartner (landing.originChange state)
        (landing.originChange other) =
      true := by
  cases undoes with
  | lower extra =>
      have level : other.height = state.height := eq_of_beq accepted
      simp [Perform.acceptsPartner, Perform.originChange, Site.raise, level]
  | uncover species extra =>
      have level : other.height = state.height :=
        eq_of_beq (Bool.and_eq_true_iff.mp accepted).1
      simp [Perform.acceptsPartner, Perform.originChange, Site.cover,
        Site.holds, level]

/-- The rule admits what a landing leaves of a grounded origin. -/
theorem admits
    {state : Site}
    (above : 0 ≤ state.height) :
    rule.admits (landing.originChange state) = true := by
  cases undoes with
  | lower extra =>
      exact decide_eq_true (Int.lt_add_one_of_le above)
  | uncover species extra =>
      simp [Rule.admits, Perform.originChange, Site.cover, Site.holds]

/-! ### Whole events -/

variable
    {lattice : Lattice}
    {origin : Nat}
    {state : Site}
    {chosen : List Nat}
    (picks : landing.Picks lattice origin state chosen)

include picks

theorem subset_candidates :
    chosen ⊆
      leaving.candidates (landing.effect lattice origin chosen) origin
        (landing.originChange state) := by
  intro site member
  have distinct : site ≠ origin := by
    rintro rfl
    exact (List.nodup_cons.mp picks.nodup).1 member
  rcases picks.accepted member with ⟨other, found, accepted⟩
  have after :
      (landing.effect lattice origin chosen).site? site =
        some (landing.originChange other) := by
    rw [Perform.site?_effect _ _ _ _ picks.nodup, if_neg distinct,
      if_pos member, found, undoes.partnerChange_landing]
    rfl
  have neighbour :
      site ∈ (landing.effect lattice origin chosen).neighbours origin := by
    rw [Lattice.neighbours_eq_of_config (landing.config_effect lattice origin chosen)]
    exact picks.mem_neighbours member
  exact
    Perform.mem_candidates_iff.mpr
      ⟨neighbour, landing.originChange other, after,
        undoes.acceptsPartner accepted⟩

/-- The partners may be chosen again, in any order. -/
theorem picks_again
    {partners : List Nat}
    (same : partners.Perm chosen) :
    leaving.Picks (landing.effect lattice origin chosen) origin
      (landing.originChange state) partners where
  found := picks.site?_effect_origin
  drawn := by
    have nodup : partners.Nodup :=
      same.nodup_iff.mpr (List.nodup_cons.mp picks.nodup).2
    -- Distinct candidates are the front of some rearrangement of all candidates.
    have among :=
      (List.subperm_of_subset nodup fun site member =>
        undoes.subset_candidates picks (same.subset member))
    rcases among with ⟨others, rearranged, sublist⟩
    rcases sublist.exists_perm_append with ⟨rest, perm⟩
    refine ⟨?_, rest, ?_⟩
    · rw [same.length_eq, picks.length_eq, Perform.partners, Perform.partners,
        undoes.sites_eq]
    · exact (rearranged.symm.append_right rest).trans perm.symm

/-- The rule holds where a landing has happened. -/
theorem holdsAt_again (above : 0 ≤ state.height) :
    rule.holdsAt (landing.effect lattice origin chosen) origin
        (landing.originChange state) =
      true := by
  have enough :
      leaving.partners ≤
        (leaving.candidates (landing.effect lattice origin chosen) origin
          (landing.originChange state)).length := by
    rcases (undoes.picks_again picks (List.Perm.refl chosen)).drawn with
      ⟨lengthEq, rest, perm⟩
    have longer := perm.length_eq
    rw [List.length_append, lengthEq] at longer
    omega
  rw [Perform.length_candidates] at enough
  rw [Rule.holdsAt_eq_and undoes.rule_ne, undoes.admits above, undoes.offers_eq,
    Bool.true_and, decide_eq_true_eq]
  exact enough

/-- A landing that raises columns fits where they are not of the greatest height. -/
theorem fits_landing_iff (fits : lattice.Fits) :
    (landing.effect lattice origin chosen).Fits ↔
      (0 < landing.heightChange → state.height < greatestShort) := by
  refine Perform.fits_effect_iff_of_not_sinks ?_ ?_ fits picks
  · cases undoes <;> rfl
  · cases undoes <;> exact Nat.succ_pos _

/-- Leaving restores every site. -/
theorem site?_again
    (room : landing.hasRoom state = true)
    (clean :
      ∀ site before, lattice.site? site = some before → before.Clean)
    {partners : List Nat}
    (same : partners.Perm chosen)
    (site : Nat) :
    (leaving.effect (landing.effect lattice origin chosen) origin
        partners).site? site =
      lattice.site? site := by
  have apart := (undoes.picks_again picks same).nodup
  rw [Perform.site?_effect _ _ _ _ apart,
    Perform.site?_effect _ _ _ _ picks.nodup, undoes.partnerChange_landing,
    undoes.partnerChange_leaving]
  simp only [same.mem_iff]
  by_cases isOrigin : site = origin
  · subst isOrigin
    rw [if_pos rfl, if_pos rfl, picks.found, Option.map_some, Option.map_some,
      undoes.originChange_originChange room (clean _ _ picks.found)]
  · rw [if_neg isOrigin, if_neg isOrigin]
    by_cases member : site ∈ chosen
    · rcases picks.accepted member with ⟨other, found, accepted⟩
      rw [if_pos member, if_pos member, found, Option.map_some, Option.map_some,
        undoes.originChange_originChange (Perform.hasRoom_partner accepted)
          (clean _ _ found)]
    · rw [if_neg member, if_neg member]

end Undoes

end SurfaceKinetics
