import SurfaceKinetics.Proofs.Lattice.Frame
import SurfaceKinetics.Proofs.Lattice.Neighbourhood
import SurfaceKinetics.Proofs.Random.Drawing
import SurfaceKinetics.SurfaceProcess.Perform

/-!
# What an event does

An event changes its origin in one way and every partner in another, and nothing
else.  Which partners are drawn is left to chance; that they are distinct
neighbours of the origin which the perform accepts is not.  An event fails only
for want of partners or of an origin.
-/

namespace SurfaceKinetics

namespace Perform

/-! ## The change of an origin and of a partner -/

/-- What an event does to its origin. -/
def originChange : Perform → Site → Site
  | raiseHeight _ => (Site.raise · 1)
  | lowerHeight _ => (Site.raise · (-1))
  | cover species _ => (Site.cover · species)
  | uncover _ _ => Site.uncover
  | hopHeight => (Site.raise · (-1))
  | hop _ => Site.uncover
  | react _ product grows => reacted product grows

/-- What an event does to each of its partners. -/
def partnerChange : Perform → Site → Site
  | raiseHeight _ => (Site.raise · 1)
  | lowerHeight _ => (Site.raise · (-1))
  | cover species _ => (Site.cover · species)
  | uncover _ _ => Site.uncover
  | hopHeight => (Site.raise · 1)
  | hop species => (Site.cover · species)
  | react .. => Site.uncover

/-- An effect changes the origin first and the partners then. -/
theorem effect_eq
    (perform : Perform)
    (lattice : Lattice)
    {origin : Nat}
    {chosen : List Nat}
    (apart : origin ∉ chosen) :
    perform.effect lattice origin chosen =
      (lattice.modify origin perform.originChange).modifyAll chosen
        perform.partnerChange := by
  cases perform with
  | react partner product grows =>
      exact lattice.modify_modifyAll_comm apart _ _
  | _ => rfl

section Frame

variable
    (perform : Perform)
    (lattice : Lattice)
    (origin : Nat)
    (chosen : List Nat)

@[simp]
theorem config_effect :
    (perform.effect lattice origin chosen).config = lattice.config := by
  cases perform <;> simp [effect]

@[simp]
theorem coordination_effect :
    (perform.effect lattice origin chosen).coordination =
      lattice.coordination := by
  cases perform <;> simp [effect]

@[simp]
theorem counts_effect :
    (perform.effect lattice origin chosen).counts = lattice.counts := by
  cases perform <;> simp [effect]

/-- The states after an effect. -/
theorem site?_effect
    (apart : (origin :: chosen).Nodup)
    (site : Nat) :
    (perform.effect lattice origin chosen).site? site =
      if site = origin then
        (lattice.site? site).map perform.originChange
      else if site ∈ chosen then
        (lattice.site? site).map perform.partnerChange
      else
        lattice.site? site := by
  rcases List.nodup_cons.mp apart with ⟨absent, nodup⟩
  rw [perform.effect_eq lattice absent, Lattice.site?_modifyAll _ nodup,
    Lattice.site?_modify]
  by_cases equal : site = origin
  · subst equal
    simp [absent]
  · simp [equal, Ne.symm equal]

end Frame

/-! ## Partners -/

theorem nodup_candidates
    (perform : Perform)
    (lattice : Lattice)
    (origin : Nat)
    (state : Site) :
    (perform.candidates lattice origin state).Nodup :=
  (lattice.nodup_neighbours origin).filter _

theorem mem_candidates_iff
    {perform : Perform}
    {lattice : Lattice}
    {origin site : Nat}
    {state : Site} :
    site ∈ perform.candidates lattice origin state ↔
      site ∈ lattice.neighbours origin ∧
        ∃ other,
          lattice.site? site = some other ∧
            perform.acceptsPartner state other = true := by
  rw [candidates, Lattice.neighboursWhere, List.mem_filter]
  cases lattice.site? site <;> simp

/-- The partners that an event at an origin may draw. -/
structure Picks
    (perform : Perform)
    (lattice : Lattice)
    (origin : Nat)
    (state : Site)
    (chosen : List Nat) : Prop where
  found : lattice.site? origin = some state
  drawn :
    RandomSource.Drawn perform.partners
      (perform.candidates lattice origin state) chosen

namespace Picks

variable
    {perform : Perform}
    {lattice : Lattice}
    {origin : Nat}
    {state : Site}
    {chosen : List Nat}
    (picks : perform.Picks lattice origin state chosen)

include picks

theorem length_eq : chosen.length = perform.partners := picks.drawn.1

theorem mem_neighbours {site : Nat} (member : site ∈ chosen) :
    site ∈ lattice.neighbours origin :=
  (mem_candidates_iff.mp (picks.drawn.subset member)).1

theorem accepted {site : Nat} (member : site ∈ chosen) :
    ∃ other,
      lattice.site? site = some other ∧
        perform.acceptsPartner state other = true :=
  (mem_candidates_iff.mp (picks.drawn.subset member)).2

/-- An origin and its partners are distinct sites. -/
theorem nodup : (origin :: chosen).Nodup := by
  rw [List.nodup_cons]
  constructor
  · intro member
    exact lattice.not_mem_neighbours_self origin (picks.mem_neighbours member)
  · exact picks.drawn.nodup (perform.nodup_candidates lattice origin state)

end Picks

/-! ## Execution -/

/-- Why an event cannot happen. -/
inductive Fails
    {α : Type}
    (perform : Perform)
    (lattice : Lattice)
    (origin : Nat) :
    SimulationError α → Prop where
  | outside
      (absent : lattice.size ≤ origin) :
      Fails perform lattice origin
        (.lattice (.siteOutOfRange origin lattice.size))
  | tooFew
      {state : Site}
      (found : lattice.site? origin = some state)
      (short :
        (perform.candidates lattice origin state).length < perform.partners) :
      Fails perform lattice origin
        (.process
          (.tooFewPartners origin
            (perform.candidates lattice origin state).length
            perform.partners))

/-- An event has the effect of partners that it may draw, or it fails. -/
theorem execute_surely
    {α : Type}
    (perform : Perform)
    (lattice : Lattice)
    (origin : Nat) :
    RandomSource.Surely (perform.execute (α := α) lattice origin) fun outcome =>
      match outcome with
      | .error error => perform.Fails lattice origin error
      | .ok event =>
        ∃ state chosen,
          perform.Picks lattice origin state chosen ∧
            event = perform.event lattice origin chosen := by
  rw [execute, Lattice.getSite]
  cases found : lattice.site? origin with
  | none =>
      have absent := lattice.site?_eq_none_iff.mp found
      exact RandomSource.Surely.pure (.outside absent)
  | some state =>
      refine (RandomSource.takeMany_drawn _ _ _).bind ?_
      intro outcome drawn
      match outcome with
      | .error count =>
          rcases drawn with ⟨short, countEq⟩
          rw [Nat.zero_add] at countEq
          subst countEq
          exact RandomSource.Surely.pure (.tooFew found short)
      | .ok chosen =>
          exact RandomSource.Surely.pure ⟨state, chosen, ⟨found, drawn⟩, rfl⟩

end Perform

/-! ## Affected sites -/

theorem mem_insertSorted {number other : Nat} {sorted : List Nat} :
    other ∈ insertSorted number sorted ↔ other = number ∨ other ∈ sorted := by
  induction sorted with
  | nil => simp [insertSorted]
  | cons first rest induction =>
      rw [insertSorted]
      split
      · simp
      · split
        · next equal => simp [equal]
        · rw [List.mem_cons, induction, List.mem_cons]
          exact or_left_comm

/-- The affected sites are the changed ones and their neighbours. -/
theorem Lattice.mem_withNeighbours_iff
    {lattice : Lattice}
    {sites : List Nat}
    {site : Nat} :
    site ∈ lattice.withNeighbours sites ↔
      ∃ changed ∈ sites, site = changed ∨ site ∈ lattice.neighbours changed := by
  have collected :
      ∀ (numbers sorted : List Nat),
        site ∈ numbers.foldl
            (fun sorted number => insertSorted number sorted) sorted ↔
          site ∈ numbers ∨ site ∈ sorted := by
    intro numbers
    induction numbers with
    | nil => simp
    | cons number numbers induction =>
        intro sorted
        rw [List.foldl_cons, induction, mem_insertSorted, List.mem_cons]
        exact or_left_comm.trans or_assoc.symm
  rw [withNeighbours, collected]
  simp [List.mem_flatMap]

end SurfaceKinetics
