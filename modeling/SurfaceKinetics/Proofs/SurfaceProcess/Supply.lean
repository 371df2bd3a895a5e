import SurfaceKinetics.Proofs.SurfaceProcess.Effect
import SurfaceKinetics.SurfaceProcess.Rule

/-!
# Supply and demand of neighbours

A rule counts neighbours of one kind, and a perform draws its partners from
neighbours of one kind.  A rule supplies a perform when it counts at least as
many neighbours as the perform draws, and all of the kind that the perform looks
for; then no event fails where the rule holds.

Kinds are compared by `within`, which says exactly when every neighbour of one
kind is of the other, whatever the origin.
-/

namespace SurfaceKinetics

/-! ## Kinds of neighbours -/

/-- What a neighbour is like, seen from an origin. -/
inductive NeighbourKind where
  | nobody
  | notHigher
  | level
  | vacantLevel
  | levelHolding (species : String)
  deriving DecidableEq

namespace NeighbourKind

/-- Whether a neighbour is of a kind. -/
def accepts (kind : NeighbourKind) (origin other : Site) : Bool :=
  match kind with
  | nobody => false
  | notHigher => other.height ≤ origin.height
  | level => other.height == origin.height
  | vacantLevel => other.height == origin.height && !other.occupied
  | levelHolding species =>
    other.height == origin.height && other.holds species

/-- Whether all neighbours of one kind are of a wider one. -/
def within (kind wider : NeighbourKind) : Bool :=
  match wider with
  | notHigher => true
  | level => kind ≠ notHigher
  | wider => kind = nobody ∨ kind = wider

theorem within_self (kind : NeighbourKind) : kind.within kind = true := by
  cases kind <;> simp [within]

theorem height_le_of_accepts
    {kind : NeighbourKind}
    {origin other : Site}
    (accepted : kind.accepts origin other = true) :
    other.height ≤ origin.height := by
  cases kind with
  | nobody => cases accepted
  | notHigher => exact of_decide_eq_true accepted
  | level => exact Int.le_of_eq (eq_of_beq accepted)
  | vacantLevel =>
      exact Int.le_of_eq (eq_of_beq (Bool.and_eq_true_iff.mp accepted).1)
  | levelHolding species =>
      exact Int.le_of_eq (eq_of_beq (Bool.and_eq_true_iff.mp accepted).1)

theorem height_eq_of_accepts
    {kind : NeighbourKind}
    (narrow : kind ≠ notHigher)
    {origin other : Site}
    (accepted : kind.accepts origin other = true) :
    other.height = origin.height := by
  cases kind with
  | nobody => cases accepted
  | notHigher => exact (narrow rfl).elim
  | level => exact eq_of_beq accepted
  | vacantLevel => exact eq_of_beq (Bool.and_eq_true_iff.mp accepted).1
  | levelHolding species => exact eq_of_beq (Bool.and_eq_true_iff.mp accepted).1

theorem accepts_of_within
    {kind wider : NeighbourKind}
    (inside : kind.within wider = true)
    {origin other : Site}
    (accepted : kind.accepts origin other = true) :
    wider.accepts origin other = true := by
  have same : kind = nobody ∨ kind = wider → wider.accepts origin other = true := by
    rintro (rfl | rfl)
    · cases accepted
    · exact accepted
  cases wider with
  | notHigher => exact decide_eq_true (height_le_of_accepts accepted)
  | level =>
      have narrow : kind ≠ notHigher := of_decide_eq_true inside
      exact beq_iff_eq.mpr (height_eq_of_accepts narrow accepted)
  | nobody => exact same (of_decide_eq_true inside)
  | vacantLevel => exact same (of_decide_eq_true inside)
  | levelHolding species => exact same (of_decide_eq_true inside)

/--
A kind that is not within another one has a neighbour of its own, lower than the origin
by one at most.
-/
theorem exists_accepts_of_not_within
    {kind wider : NeighbourKind}
    (apart : kind.within wider = false)
    (origin : Site) :
    ∃ other,
      origin.height - 1 ≤ other.height ∧
        kind.accepts origin other = true ∧ wider.accepts origin other = false := by
  let lower := Site.vacant (origin.height - 1) ""
  let bare := Site.vacant origin.height ""
  let covered := bare.cover
  have near : origin.height - 1 ≤ origin.height := by omega
  cases wider with
  | notHigher => cases apart
  | level =>
      have low : kind = notHigher := by simpa [within] using apart
      subst low
      have below : origin.height - 1 < origin.height := by omega
      exact
        ⟨lower, Int.le_refl _, decide_eq_true (Int.le_of_lt below),
          beq_false_of_ne (Int.ne_of_lt below)⟩
  | nobody =>
      cases kind with
      | nobody => cases apart
      | levelHolding species =>
          refine ⟨covered species, near, ?_, rfl⟩
          simp [accepts, covered, bare, Site.cover, Site.vacant, Site.holds]
      | _ =>
          refine ⟨bare, near, ?_, rfl⟩
          simp [accepts, bare, Site.vacant]
  | vacantLevel =>
      cases kind with
      | nobody => cases apart
      | vacantLevel => simp [within] at apart
      | levelHolding species =>
          refine ⟨covered species, near, ?_, ?_⟩ <;>
            simp [accepts, covered, bare, Site.cover, Site.vacant, Site.holds]
      | _ =>
          refine ⟨covered "", near, ?_, ?_⟩ <;>
            simp [accepts, covered, bare, Site.cover, Site.vacant]
  | levelHolding wanted =>
      cases kind with
      | nobody => cases apart
      | levelHolding species =>
          have distinct : species ≠ wanted := by simpa [within] using apart
          refine ⟨covered species, near, ?_, ?_⟩ <;>
            simp [accepts, covered, bare, Site.cover, Site.vacant, Site.holds,
              distinct]
      | _ =>
          refine ⟨bare, near, ?_, ?_⟩ <;>
            simp [accepts, bare, Site.vacant, Site.holds]

end NeighbourKind

/-! ## Supply and demand -/

/-- A number of neighbours of one kind. -/
structure Partners where
  count : Nat
  kind : NeighbourKind

/-- There are enough partners, and all of the kind that is needed. -/
def Partners.Cover (offered needed : Partners) : Prop :=
  needed.count = 0 ∨
    needed.count ≤ offered.count ∧ offered.kind.within needed.kind = true

namespace Rule

/-- The neighbours that a rule counts. -/
def offers : Rule → Partners
  | unconditional => ⟨0, .nobody⟩
  | sameHeightNeighbours required => ⟨required, .level⟩
  | allNeighboursOccupied => ⟨0, .nobody⟩
  | vacant => ⟨0, .nobody⟩
  | vacantCluster required => ⟨required, .vacantLevel⟩
  | elevated required => ⟨required, .level⟩
  | occupiedBy species required => ⟨required, .levelHolding species⟩
  | canHop _ => ⟨1, .vacantLevel⟩
  | canDescend => ⟨1, .notHigher⟩
  | pair _ (some second) => ⟨1, .levelHolding second⟩
  | pair _ none => ⟨0, .nobody⟩

/-- What a rule asks of the site itself. -/
def admits (rule : Rule) (state : Site) : Bool :=
  match rule with
  | vacant => !state.occupied
  | vacantCluster _ => !state.occupied
  | elevated _ => 0 < state.height
  | canDescend => 0 < state.height
  | occupiedBy species _ => state.holds species
  | canHop species => state.holds species
  | pair first _ => state.holds first
  | _ => true

/-- A rule is eligible at the sites of the lattice where it holds. -/
theorem isEligible_iff
    {rule : Rule}
    {lattice : Lattice}
    {site : Nat} :
    rule.isEligible lattice site = true ↔
      ∃ state,
        lattice.site? site = some state ∧
          rule.holdsAt lattice site state = true := by
  rw [isEligible]
  cases lattice.site? site with
  | none => simp
  | some state => simp

theorem not_isEmpty_eq_one_le (sites : List Nat) :
    (!sites.isEmpty) = decide (1 ≤ sites.length) := by
  cases sites <;> simp

/-- A rule asks for a state of its site and for a number of neighbours. -/
theorem holdsAt_eq_and
    {rule : Rule}
    (other : rule ≠ allNeighboursOccupied)
    (lattice : Lattice)
    (site : Nat)
    (state : Site) :
    rule.holdsAt lattice site state =
      (rule.admits state &&
        decide
          (rule.offers.count ≤
            (lattice.neighboursWhere site
              (rule.offers.kind.accepts state)).length)) := by
  have level :
      lattice.levelNeighbours site state (fun _ => true) =
        lattice.neighboursWhere site (NeighbourKind.level.accepts state) := by
    simp only [Lattice.levelNeighbours, Bool.and_true]
    rfl
  cases rule with
  | allNeighboursOccupied => exact (other rfl).elim
  | unconditional => simp [holdsAt, admits, offers]
  | vacant => simp [holdsAt, admits, offers]
  | sameHeightNeighbours required =>
      rw [holdsAt, level]
      exact (Bool.true_and _).symm
  | vacantCluster required => rfl
  | elevated required =>
      rw [holdsAt, level]
      rfl
  | occupiedBy species required => rfl
  | canHop species =>
      rw [holdsAt, not_isEmpty_eq_one_le]
      rfl
  | canDescend =>
      rw [holdsAt, not_isEmpty_eq_one_le]
      rfl
  | pair first second =>
      cases second with
      | none => simp [holdsAt, admits, offers]
      | some second =>
          rw [holdsAt, not_isEmpty_eq_one_le]
          rfl

/-- Where a rule holds there are as many neighbours as it offers. -/
theorem offers_le
    {rule : Rule}
    {lattice : Lattice}
    {site : Nat}
    {state : Site}
    (holds : rule.holdsAt lattice site state = true) :
    rule.offers.count ≤
      (lattice.neighboursWhere site
        (rule.offers.kind.accepts state)).length := by
  by_cases other : rule = allNeighboursOccupied
  · subst other
    exact Nat.zero_le _
  · rw [holdsAt_eq_and other, Bool.and_eq_true, decide_eq_true_eq] at holds
    exact holds.2

end Rule

namespace Perform

/-- The neighbours that a perform draws. -/
def needs (perform : Perform) : Partners where
  count := perform.partners
  kind :=
    match perform with
    | raiseHeight _ => .level
    | lowerHeight _ => .level
    | cover .. => .vacantLevel
    | uncover species _ => .levelHolding species
    | hopHeight => .notHigher
    | hop _ => .vacantLevel
    | react (some species) _ _ => .levelHolding species
    | react none _ _ => .nobody

/-- A perform accepts the partners of the kind that it needs. -/
theorem acceptsPartner_eq (perform : Perform) :
    perform.acceptsPartner = perform.needs.kind.accepts := by
  cases perform with
  | react partner product grows => cases partner <;> rfl
  | _ => rfl

theorem length_candidates
    (perform : Perform)
    (lattice : Lattice)
    (origin : Nat)
    (state : Site) :
    (perform.candidates lattice origin state).length =
      (lattice.neighboursWhere origin
        (perform.needs.kind.accepts state)).length := by
  rw [candidates, acceptsPartner_eq]

/-- An event happens when there are enough candidates, and fails otherwise. -/
theorem execute_outcome
    {α : Type}
    (perform : Perform)
    {lattice : Lattice}
    {origin : Nat}
    {state : Site}
    (found : lattice.site? origin = some state) :
    RandomSource.Surely (perform.execute (α := α) lattice origin) fun outcome =>
      perform.partners ≤ (perform.candidates lattice origin state).length ∧
          (∃ chosen,
            perform.Picks lattice origin state chosen ∧
              outcome = .ok (perform.event lattice origin chosen)) ∨
        (perform.candidates lattice origin state).length < perform.partners ∧
          outcome =
            .error
              (.process
                (.tooFewPartners origin
                  (perform.candidates lattice origin state).length
                  perform.partners)) := by
  refine (perform.execute_surely lattice origin).mono ?_
  intro outcome result
  match outcome with
  | .error error =>
      cases result with
      | outside absent =>
          rw [lattice.site?_eq_none_iff.mpr absent] at found
          cases found
      | tooFew sameFound short =>
          rw [found] at sameFound
          cases sameFound
          exact Or.inr ⟨short, rfl⟩
  | .ok event =>
      rcases result with ⟨sameState, chosen, picks, rfl⟩
      rcases picks.drawn with ⟨lengthEq, rest, perm⟩
      have enough := perm.length_eq
      rw [List.length_append, lengthEq] at enough
      rw [picks.found] at found
      cases found
      exact Or.inl ⟨by omega, chosen, picks, rfl⟩

end Perform

/-- A weaker test selects at least as many neighbours. -/
theorem Lattice.length_neighboursWhere_le
    (lattice : Lattice)
    {site : Nat}
    {test weaker : Site → Bool}
    (implied : ∀ {other : Site}, test other = true → weaker other = true) :
    (lattice.neighboursWhere site test).length ≤
      (lattice.neighboursWhere site weaker).length := by
  apply List.Sublist.length_le
  apply List.monotone_filter_right
  intro neighbour selected
  cases found : lattice.site? neighbour with
  | none =>
      rw [found] at selected
      cases selected
  | some other =>
      rw [found] at selected
      exact implied selected

/-- Covered needs leave enough candidates wherever the rule holds. -/
theorem Rule.partners_le_of_cover
    {rule : Rule}
    {perform : Perform}
    (cover : rule.offers.Cover perform.needs)
    {lattice : Lattice}
    {site : Nat}
    {state : Site}
    (holds : rule.holdsAt lattice site state = true) :
    perform.partners ≤ (perform.candidates lattice site state).length := by
  rcases cover with nothing | ⟨enough, inside⟩
  · exact Nat.le_trans (Nat.le_of_eq nothing) (Nat.zero_le _)
  · rw [perform.length_candidates]
    calc
      perform.partners ≤ rule.offers.count := enough
      _ ≤ (lattice.neighboursWhere site
            (rule.offers.kind.accepts state)).length := Rule.offers_le holds
      _ ≤ _ :=
        lattice.length_neighboursWhere_le fun accepted =>
          NeighbourKind.accepts_of_within inside accepted

end SurfaceKinetics
