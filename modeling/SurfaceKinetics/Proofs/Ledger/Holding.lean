import SurfaceKinetics.Proofs.Ledger.Entries
import SurfaceKinetics.Proofs.Simulation.Coherence
import SurfaceKinetics.Proofs.SurfaceProcess.Service

/-!
# What sites hold

An event that covers a site finds it vacant, and one that uncovers a site finds
the species that it takes away; rules and partner tests see to that.  So every
event of a process changes the number of sites that hold a species by the same
amount.
-/

namespace SurfaceKinetics

/-! ## What a site holds -/

namespace Site

/-- The species that a site holds. -/
def held? (site : Site) : Option String :=
  if site.occupied then some site.label else none

theorem held?_of_vacant {site : Site} (vacant : site.occupied = false) :
    site.held? = none := by
  rw [held?, vacant]
  rfl

theorem held?_of_holds
    {site : Site}
    {species : String}
    (holds : site.holds species = true) :
    site.held? = some species := by
  rcases Bool.and_eq_true_iff.mp holds with ⟨occupied, label⟩
  rw [held?, if_pos occupied, eq_of_beq label]

theorem holds_eq_held? (site : Site) (species : String) :
    site.holds species = decide (site.held? = some species) := by
  rw [holds, held?]
  cases site.occupied with
  | false => rfl
  | true => simp [Bool.beq_eq_decide_eq]

end Site

/-- One for a species that is there, and zero for any other. -/
def presence (species : String) (found : Option String) : Int :=
  if found = some species then 1 else 0

theorem presence_none (species : String) : presence species none = 0 := rfl

theorem Lattice.countHolding_eq_tally (lattice : Lattice) (species : String) :
    (lattice.countHolding species : Int) =
      lattice.tally fun state => presence species state.held? := by
  rw [countHolding, tally]
  induction lattice.sites.toList with
  | nil => rfl
  | cons state rest induction =>
      rw [List.countP_cons, List.map_cons, netTotal_cons, ← induction,
        Site.holds_eq_held?, presence]
      by_cases found : state.held? = some species
      · simp [found]
        omega
      · simp [found]

/-! ## What an event does to what is held -/

/-- What a rule and a perform do to the number of sites that hold a species. -/
def Perform.holdingChange
    (perform : Perform)
    (rule : Rule)
    (species : String) : Int :=
  match perform, rule with
  | cover covering sites, _ => sites * presence species (some covering)
  | uncover leaving sites, _ => -(sites * presence species (some leaving))
  | react partner product _, .pair first _ =>
    presence species product - presence species (some first) -
      presence species partner
  | _, _ => 0

/-- The change of the number of sites that hold a species by one event. -/
def SurfaceProcess.holdingChange
    {α : Type}
    (process : SurfaceProcess α)
    (species : String) : Int :=
  process.perform.holdingChange process.rule species

namespace Perform

theorem held?_reacted
    (product : Option String)
    (grows : Bool)
    (state : Site) :
    (reacted product grows state).held? = product := by
  cases product <;> cases grows <;> rfl

/-- What an event of a rule and a perform adds to what its origin holds. -/
def originHolding
    (perform : Perform)
    (rule : Rule)
    (species : String) : Int :=
  match perform, rule with
  | cover covering _, _ => presence species (some covering)
  | uncover leaving _, _ => -presence species (some leaving)
  | hop moving, _ => -presence species (some moving)
  | react _ product _, .pair first _ =>
    presence species product - presence species (some first)
  | _, _ => 0

/-- What an event adds to what a partner holds. -/
def partnerHolding (perform : Perform) (species : String) : Int :=
  match perform with
  | cover covering _ => presence species (some covering)
  | uncover leaving _ => -presence species (some leaving)
  | hop moving => presence species (some moving)
  | react partner _ _ => -presence species partner
  | _ => 0

theorem presence_partnerChange
    {perform : Perform}
    {state other : Site}
    (accepted : perform.acceptsPartner state other = true)
    (species : String) :
    presence species (perform.partnerChange other).held? -
        presence species other.held? =
      perform.partnerHolding species := by
  cases perform with
  | raiseHeight sites => exact Int.sub_self _
  | lowerHeight sites => exact Int.sub_self _
  | hopHeight => exact Int.sub_self _
  | cover covering sites =>
      simp only [acceptsPartner, Bool.and_eq_true, Bool.not_eq_true']
        at accepted
      rw [Site.held?_of_vacant accepted.2, presence_none, Int.sub_zero]
      rfl
  | hop moving =>
      simp only [acceptsPartner, Bool.and_eq_true, Bool.not_eq_true']
        at accepted
      rw [Site.held?_of_vacant accepted.2, presence_none, Int.sub_zero]
      rfl
  | uncover leaving sites =>
      simp only [acceptsPartner, Bool.and_eq_true] at accepted
      rw [Site.held?_of_holds accepted.2]
      exact Int.zero_sub _
  | react partner product grows =>
      cases partner with
      | none => cases accepted
      | some second =>
          simp only [acceptsPartner, Bool.and_eq_true] at accepted
          rw [Site.held?_of_holds accepted.2]
          exact Int.zero_sub _

end Perform

namespace Rule.Serves

variable
    {rule : Rule}
    {perform : Perform}
    (serves : rule.Serves perform)

include serves

theorem presence_originChange
    {lattice : Lattice}
    {site : Nat}
    {state : Site}
    (holds : rule.holdsAt lattice site state = true)
    (species : String) :
    presence species (perform.originChange state).held? -
        presence species state.held? =
      perform.originHolding rule species := by
  cases serves with
  | raise => exact Int.sub_self _
  | raiseCluster extra => exact Int.sub_self _
  | lower => exact Int.sub_self _
  | lowerCluster extra => exact Int.sub_self _
  | hopHeight => exact Int.sub_self _
  | cover covering =>
      simp only [holdsAt, Bool.not_eq_true'] at holds
      rw [Site.held?_of_vacant holds, presence_none, Int.sub_zero]
      rfl
  | coverCluster covering extra =>
      simp only [holdsAt, Bool.and_eq_true, Bool.not_eq_true'] at holds
      rw [Site.held?_of_vacant holds.1, presence_none, Int.sub_zero]
      rfl
  | uncover leaving extra =>
      simp only [holdsAt, Bool.and_eq_true] at holds
      rw [Site.held?_of_holds holds.1]
      exact Int.zero_sub _
  | hop moving =>
      simp only [holdsAt, Bool.and_eq_true] at holds
      rw [Site.held?_of_holds holds.1]
      exact Int.zero_sub _
  | react first partner product grows =>
      simp only [holdsAt, Bool.and_eq_true] at holds
      rw [Site.held?_of_holds holds.1, Perform.originChange,
        Perform.held?_reacted]
      rfl

/-- The gains at an origin and at its partners add up to the holding change. -/
theorem holdingChange_eq (species : String) :
    perform.holdingChange rule species =
      perform.originHolding rule species +
        perform.partners * perform.partnerHolding species := by
  cases serves with
  | cover covering =>
      simp [Perform.holdingChange, Perform.originHolding, Perform.partners,
        Perform.sites]
  | coverCluster covering extra =>
      simp only [Perform.holdingChange, Perform.originHolding,
        Perform.partnerHolding, Perform.partners, Perform.sites,
        Nat.add_sub_cancel, Int.natCast_succ]
      rw [Int.add_mul, Int.one_mul, Int.add_comm]
  | uncover leaving extra =>
      simp only [Perform.holdingChange, Perform.originHolding,
        Perform.partnerHolding, Perform.partners, Perform.sites,
        Nat.add_sub_cancel, Int.natCast_succ]
      rw [Int.add_mul, Int.one_mul, Int.mul_neg, Int.neg_add, Int.add_comm]
  | hop moving =>
      -- What leaves the origin arrives at the only partner.
      show 0 = -presence species (some moving) +
        1 * presence species (some moving)
      rw [Int.one_mul, Int.add_left_neg]
  | react first partner product grows =>
      cases partner with
      | none =>
          simp [Perform.holdingChange, Perform.originHolding, Perform.partners,
            Perform.sites, presence_none]
      | some second =>
          simp only [Perform.holdingChange, Perform.originHolding,
            Perform.partnerHolding, Perform.partners, Perform.sites]
          simp [Int.sub_eq_add_neg]
  | _ =>
      simp [Perform.holdingChange, Perform.originHolding,
        Perform.partnerHolding]

end Rule.Serves

/-- A step changes what is held by the holding change of its process. -/
theorem Run.Moves.countHolding_eq
    {α : Type}
    [Quantity α]
    {run next : Run α}
    {process : SurfaceProcess α}
    {pair : LivePair α}
    {state : Site}
    {chosen : List Nat}
    (moves : run.Moves process pair state chosen next)
    (coherent : run.Coherent)
    (serves : process.rule.Serves process.perform)
    (species : String) :
    (next.lattice.countHolding species : Int) =
      run.lattice.countHolding species + process.holdingChange species := by
  have gained :=
    moves.tally_eq (fun site => presence species site.held?)
      (serves.presence_originChange (moves.holdsAt coherent) species)
      fun _ accepted => Perform.presence_partnerChange accepted species
  rw [← serves.holdingChange_eq] at gained
  rw [Lattice.countHolding_eq_tally, Lattice.countHolding_eq_tally]
  exact gained

end SurfaceKinetics
