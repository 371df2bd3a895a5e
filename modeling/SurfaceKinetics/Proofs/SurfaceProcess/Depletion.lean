import SurfaceKinetics.Proofs.SurfaceProcess.Service

/-!
# Processes that use up a surface

Adsorptions in label mode cover vacant sites, and desorptions in height mode that
ask for columns above the floor lower such columns.  Each site that an event of
one of these changes is vacant, or above the floor, before it.  So an event uses
up exactly as much of what is left, vacant sites and columns, as it has sites.
-/

namespace SurfaceKinetics

/-- The categories, rules and performs of the processes that use up a surface. -/
inductive Depletes : Category → Rule → Perform → Prop where
  | cover (species : String) :
      Depletes .adsorption .vacant (.cover species 1)
  | coverCluster (species : String) (extra : Nat) :
      Depletes .adsorption (.vacantCluster extra) (.cover species (extra + 1))
  | lower (extra : Nat) :
      Depletes .desorption (.elevated extra) (.lowerHeight (extra + 1))

/--
Processes that are adsorptions in label mode, or desorptions in height mode from columns
above the floor.
-/
inductive SurfaceProcess.Irreversible
    {α : Type}
    (process : SurfaceProcess α) : Prop where
  | adsorption
      (category_eq : process.category = .adsorption)
      (mode_eq : process.mode = .label)
  | desorption
      {required : Nat}
      (category_eq : process.category = .desorption)
      (mode_eq : process.mode = .height)
      (rule_eq : process.rule = .elevated required)

section Binding

variable {α : Type}

theorem Binding.depletes_of_adsorption
    {vocabulary : Vocabulary}
    {descriptor : Descriptor α}
    {growth : List String}
    {species : String}
    (categoryEq : descriptor.category = .adsorption)
    (modeEq : modeOf descriptor.category species growth = .label) :
    Depletes .adsorption (parts vocabulary descriptor growth species).1
      (parts vocabulary descriptor growth species).2 := by
  rcases Nat.exists_eq_add_of_le' (sitesOf_pos descriptor) with
    ⟨extra, sitesEq⟩
  rw [categoryEq] at modeEq
  simp only [parts, sitesEq, categoryEq, modeEq, Nat.add_sub_cancel]
  split
  · next alone =>
      subst alone
      exact .cover species
  · exact .coverCluster species extra

theorem Binding.depletes_of_desorption
    {vocabulary : Vocabulary}
    {descriptor : Descriptor α}
    {growth : List String}
    {species : String}
    (categoryEq : descriptor.category = .desorption)
    (modeEq : modeOf descriptor.category species growth = .height)
    {required : Nat}
    (ruleEq :
      (parts vocabulary descriptor growth species).1 = .elevated required) :
    Depletes .desorption (parts vocabulary descriptor growth species).1
      (parts vocabulary descriptor growth species).2 := by
  rcases Nat.exists_eq_add_of_le' (sitesOf_pos descriptor) with
    ⟨extra, sitesEq⟩
  rw [categoryEq] at modeEq
  simp only [parts, sitesEq, categoryEq, modeEq, Nat.add_sub_cancel]
    at ruleEq ⊢
  split at ruleEq
  · cases ruleEq
  · next restrained =>
      rw [if_neg restrained]
      exact .lower extra

variable [Quantity α]

/-- A bound process that is irreversible uses up the surface. -/
theorem SurfaceProcess.Irreversible.depletes
    {process : SurfaceProcess α}
    (irreversible : process.Irreversible)
    {descriptor : Descriptor α}
    {registry : Registry α}
    {growth : List String}
    (bound : (bind descriptor registry growth).value = .ok process) :
    Depletes process.category process.rule process.perform := by
  rcases Binding.assemble_ok (assembled_of_bind bound).1 with
    ⟨species, rfl, boundMode, boundRule, boundPerform⟩
  cases irreversible with
  | adsorption categoryEq modeEq =>
      rw [boundMode] at modeEq
      rw [categoryEq, boundRule, boundPerform]
      exact Binding.depletes_of_adsorption categoryEq modeEq
  | desorption categoryEq modeEq ruleEq =>
      rw [boundMode] at modeEq
      rw [boundRule] at ruleEq
      rw [categoryEq, boundRule, boundPerform]
      exact Binding.depletes_of_desorption categoryEq modeEq ruleEq

end Binding

/-! ## What is left -/

/-- What is left at a site: one if it is vacant, and the height of its column. -/
def Site.reserve (site : Site) : Int :=
  (if site.occupied then 0 else 1) + site.height

theorem Site.reserve_cover
    {site : Site}
    (vacant : site.occupied = false)
    (species : String) :
    (site.cover species).reserve - site.reserve = -1 := by
  rw [reserve, reserve, vacant, cover]
  simp only [if_true, Bool.false_eq_true, if_false]
  omega

theorem Site.reserve_lower (site : Site) :
    (site.raise (-1)).reserve - site.reserve = -1 := by
  rw [reserve, reserve, raise]
  dsimp only
  omega

section Events

variable
    {category : Category}
    {rule : Rule}
    {perform : Perform}
    (depletes : Depletes category rule perform)

include depletes

theorem Depletes.sites_pos : 0 < perform.sites := by
  cases depletes with
  | cover species => exact Nat.one_pos
  | coverCluster species extra => exact Nat.succ_pos extra
  | lower extra => exact Nat.succ_pos extra

theorem Depletes.rule_ne : rule ≠ .allNeighboursOccupied := by
  cases depletes <;> exact Rule.noConfusion

/-- An event uses up one of what is left at its origin. -/
theorem Depletes.reserve_originChange
    {lattice : Lattice}
    {site : Nat}
    {state : Site}
    (holds : rule.holdsAt lattice site state = true) :
    (perform.originChange state).reserve - state.reserve = -1 := by
  cases depletes with
  | cover species =>
      simp only [Rule.holdsAt, Bool.not_eq_true'] at holds
      exact Site.reserve_cover holds species
  | coverCluster species extra =>
      simp only [Rule.holdsAt, Bool.and_eq_true, Bool.not_eq_true'] at holds
      exact Site.reserve_cover holds.1 species
  | lower extra => exact state.reserve_lower

/-- An event uses up one of what is left at each of its partners. -/
theorem Depletes.reserve_partnerChange
    {state other : Site}
    (accepted : perform.acceptsPartner state other = true) :
    (perform.partnerChange other).reserve - other.reserve = -1 := by
  cases depletes with
  | cover species =>
      simp only [Perform.acceptsPartner, Bool.and_eq_true,
        Bool.not_eq_true'] at accepted
      exact Site.reserve_cover accepted.2 species
  | coverCluster species extra =>
      simp only [Perform.acceptsPartner, Bool.and_eq_true,
        Bool.not_eq_true'] at accepted
      exact Site.reserve_cover accepted.2 species
  | lower extra => exact other.reserve_lower

/-- On one site, an adsorption is barred only where a site is occupied. -/
theorem Depletes.occupied_of_barred
    (adsorbs : category = .adsorption)
    (alone : perform.sites = 1)
    {lattice : Lattice}
    {site : Nat}
    {state : Site}
    (barred : rule.holdsAt lattice site state = false) :
    state.occupied = true := by
  cases depletes with
  | cover species => simpa [Rule.holdsAt] using barred
  | coverCluster species extra =>
      have noneExtra : extra = 0 := Nat.succ.inj alone
      subst noneExtra
      simpa [Rule.holdsAt] using barred
  | lower extra => cases adsorbs

/-- On one site, a desorption is barred only where a column is on the floor. -/
theorem Depletes.height_le_of_barred
    (desorbs : category = .desorption)
    (alone : perform.sites = 1)
    {lattice : Lattice}
    {site : Nat}
    {state : Site}
    (barred : rule.holdsAt lattice site state = false) :
    state.height ≤ 0 := by
  cases depletes with
  | cover species => cases desorbs
  | coverCluster species extra => cases desorbs
  | lower extra =>
      have noneExtra : extra = 0 := Nat.succ.inj alone
      subst noneExtra
      simpa [Rule.holdsAt] using barred

end Events

end SurfaceKinetics
