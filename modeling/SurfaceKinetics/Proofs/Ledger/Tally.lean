import SurfaceKinetics.Proofs.SurfaceProcess.Effect
import SurfaceKinetics.Total

/-!
# Tallies

A tally adds up a measure of the sites of a lattice.  A change of one site moves
it by the gain at that site.  Since an event changes its origin and each of its
partners exactly once, it moves a tally by the gain at the origin and by the gain
at a partner as often as there are partners.
-/

namespace SurfaceKinetics

theorem netTotal_map_modify
    {β : Type}
    (measure : β → Int)
    {items : List β}
    {place : Nat}
    {item : β}
    (found : items[place]? = some item)
    (change : β → β) :
    netTotal ((items.modify place change).map measure) =
      netTotal (items.map measure) + (measure (change item) - measure item) := by
  induction items generalizing place with
  | nil => cases found
  | cons first rest induction =>
      cases place with
      | zero =>
          cases found
          rw [List.modify_zero_cons, List.map_cons, List.map_cons,
            netTotal_cons, netTotal_cons]
          omega
      | succ place =>
          rw [List.getElem?_cons_succ] at found
          rw [List.modify_succ_cons, List.map_cons, List.map_cons,
            netTotal_cons, netTotal_cons, induction found]
          omega

namespace Lattice

/-- The sum of a measure over all sites. -/
def tally (measure : Site → Int) (lattice : Lattice) : Int :=
  netTotal (lattice.sites.toList.map measure)

variable (measure : Site → Int) (lattice : Lattice)

@[simp]
theorem tally_refreshMany (sites : List Nat) :
    (lattice.refreshMany sites).tally measure = lattice.tally measure := by
  simp [tally]

/-- A change of one site moves a tally by the gain at that site. -/
theorem tally_modify
    {site : Nat}
    {state : Site}
    (found : lattice.site? site = some state)
    (change : Site → Site) :
    (lattice.modify site change).tally measure =
      lattice.tally measure + (measure (change state) - measure state) := by
  rw [site?, ← Array.getElem?_toList] at found
  rw [tally, tally, modify, Array.toList_modify]
  exact netTotal_map_modify measure found change

/-- Changes of different sites with one gain move a tally by their number. -/
theorem tally_modifyAll
    {sites : List Nat}
    (nodup : sites.Nodup)
    {change : Site → Site}
    {gain : Int}
    (gains :
      ∀ site ∈ sites,
        ∃ state,
          lattice.site? site = some state ∧
            measure (change state) - measure state = gain) :
    (lattice.modifyAll sites change).tally measure =
      lattice.tally measure + sites.length * gain := by
  induction sites generalizing lattice with
  | nil => simp [modifyAll]
  | cons site sites induction =>
      rcases List.nodup_cons.mp nodup with ⟨absent, nodup⟩
      rcases gains site List.mem_cons_self with ⟨state, found, gained⟩
      have later :
          ∀ other ∈ sites,
            ∃ state,
              (lattice.modify site change).site? other = some state ∧
                measure (change state) - measure state = gain := by
        intro other member
        have distinct : site ≠ other := by
          intro equal
          exact absent (equal ▸ member)
        rw [site?_modify, if_neg distinct]
        exact gains other (List.mem_cons_of_mem site member)
      rw [modifyAll_cons, induction _ nodup later, tally_modify _ _ found,
        gained, List.length_cons, Int.natCast_succ, Int.add_mul, Int.one_mul]
      omega

end Lattice

/-- An event moves a tally by the gains at its origin and at its partners. -/
theorem Perform.Picks.tally_effect
    {perform : Perform}
    {lattice : Lattice}
    {origin : Nat}
    {state : Site}
    {chosen : List Nat}
    (picks : perform.Picks lattice origin state chosen)
    (measure : Site → Int)
    {originGain partnerGain : Int}
    (atOrigin :
      measure (perform.originChange state) - measure state = originGain)
    (atPartner :
      ∀ other,
        perform.acceptsPartner state other = true →
          measure (perform.partnerChange other) - measure other =
            partnerGain) :
    (perform.effect lattice origin chosen).tally measure =
      lattice.tally measure + (originGain + perform.partners * partnerGain) := by
  rcases List.nodup_cons.mp picks.nodup with ⟨absent, nodup⟩
  have gains :
      ∀ site ∈ chosen,
        ∃ other,
          (lattice.modify origin perform.originChange).site? site =
              some other ∧
            measure (perform.partnerChange other) - measure other =
              partnerGain := by
    intro site member
    rcases picks.accepted member with ⟨other, found, accepted⟩
    have distinct : origin ≠ site := by
      intro equal
      exact absent (equal ▸ member)
    rw [Lattice.site?_modify, if_neg distinct]
    exact ⟨other, found, atPartner other accepted⟩
  rw [perform.effect_eq lattice absent, Lattice.tally_modifyAll _ _ nodup gains,
    Lattice.tally_modify _ _ picks.found, atOrigin, picks.length_eq]
  omega

end SurfaceKinetics
