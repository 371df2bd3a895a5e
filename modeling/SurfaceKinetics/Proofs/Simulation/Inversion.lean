import SurfaceKinetics.Proofs.Reaction.Notation
import SurfaceKinetics.Proofs.Simulation.Floor
import SurfaceKinetics.Proofs.SurfaceProcess.Bindability
import SurfaceKinetics.Proofs.SurfaceProcess.Reversal

/-!
# Adsorption and desorption

An equation with the bare marker among several terms on one side only is an
adsorption in one direction and a desorption in the other.  Both directions read
their species and the number of their sites off the same side, so with a constant
rate either both or none are bound, and the bound desorption inverts the bound
adsorption: wherever the adsorption has happened on a grounded lattice whose vacant
sites show what lies below them, the desorption may happen at the same origin with
the same partners and gives the lattice back.  In 32 bits an adsorption that raises
columns happens below the greatest height only.
-/

namespace SurfaceKinetics

/-! ## Shapes of equations -/

/-- An equation that takes sites on its left side and gives none back. -/
structure Equation.Lands (equation : Equation) : Prop where
  plain : equation.Plain
  several : 1 < equation.reactants.length
  marked : Binding.marker ∈ equation.reactants
  unmarked : Binding.marker ∉ equation.products

/-- An equation with its sides exchanged. -/
def Equation.reverse (equation : Equation) : Equation where
  reactants := equation.products
  products := equation.reactants

theorem Equation.Plain.reverse
    {equation : Equation}
    (plain : equation.Plain) :
    equation.reverse.Plain :=
  ⟨plain.products, plain.reactants⟩

section Classify

variable
    {α : Type}
    {equation : Equation}
    (lands : equation.Lands)
    (registry : Registry α)

include lands

theorem Registry.classify_lands :
    registry.vocabulary.classify equation = .adsorption :=
  if_pos ⟨lands.several, lands.marked⟩

theorem Registry.classify_reverse_lands :
    registry.vocabulary.classify equation.reverse = .desorption := by
  have noAdsorption :
      ¬ (1 < equation.reverse.reactants.length ∧
          Binding.marker ∈ equation.reverse.reactants) :=
    fun shape => lands.unmarked shape.2
  exact (if_neg noAdsorption).trans (if_pos ⟨lands.several, lands.marked⟩)

end Classify

/-! ## Binding -/

namespace Binding

variable {α : Type}

/-- A desorption of as many sites as an adsorption undoes what it does. -/
theorem parts_undoes
    (vocabulary : Vocabulary)
    {landing leaving : Descriptor α}
    (landingEq : landing.category = .adsorption)
    (leavingEq : leaving.category = .desorption)
    (sitesEq : sitesOf leaving = sitesOf landing)
    (unoptioned : allOption ∉ leaving.energetics.options)
    (growth : List String)
    (species : String) :
    Undoes (parts vocabulary leaving growth species).1
      (parts vocabulary leaving growth species).2
      (parts vocabulary landing growth species).2 := by
  rcases Nat.exists_eq_add_of_le' (sitesOf_pos landing) with ⟨extra, landingSites⟩
  have leavingSites := sitesEq.trans landingSites
  simp only [parts, landingEq, leavingEq, landingSites, leavingSites,
    Nat.add_sub_cancel, if_neg unoptioned, modeOf]
  by_cases grows : species ∈ growth
  · rw [if_pos grows]
    exact .lower extra
  · rw [if_neg grows]
    exact .uncover species extra

variable [Quantity α]

/-- A constant rate that is finite and not negative. -/
structure ConstantRate (energetics : Energetics α) (value : α) : Prop where
  energetics_eq : energetics = { values := [value], options := [] }
  finite : Quantity.isFinite value = true
  nonnegative : ¬ value < Quantity.zero

theorem ConstantRate.parameterFault?_eq
    {energetics : Energetics α}
    {value : α}
    (constant : ConstantRate energetics value) :
    RateLaw.parameterFault? .rate value = none := by
  simp [RateLaw.parameterFault?, constant.finite, constant.nonnegative]

theorem select_constantRate
    {energetics : Energetics α}
    {value : α}
    (constant : ConstantRate energetics value)
    (name : String)
    (category : Category)
    (mass : α) :
    RateLaw.select name category energetics mass = .ok (.constant value) := by
  rw [RateLaw.select, constant.energetics_eq]
  simp only [List.findSome?_nil, RateLaw.select?, RateLaw.fault?,
    constant.parameterFault?_eq]
  rfl

section Bound

variable
    {descriptor : Descriptor α}
    {value : α}
    (constant : ConstantRate descriptor.energetics value)
    (unbalanced : descriptor.stoichiometry = none)
    (registry : Registry α)
    (growth : List String)

include constant unbalanced

/-- With a constant rate a descriptor is bound just when it has a species. -/
theorem bind_constantRate :
    (SurfaceProcess.bind descriptor registry growth).value =
      match primarySpecies? registry.vocabulary descriptor with
      | none => .error (.noSpecies descriptor.name descriptor.reaction)
      | some species =>
        .ok (processOf registry growth descriptor species (.constant value)) := by
  have faultless : descriptor.fault? = none := by
    simp [Descriptor.fault?, unbalanced, constant.energetics_eq, constant.finite]
  cases primary : primarySpecies? registry.vocabulary descriptor with
  | none =>
      rw [SurfaceProcess.bind, assemble, faultless]
      dsimp only
      rw [primary]
      rfl
  | some species =>
      refine
        SurfaceProcess.bind_eq_ok_iff.mpr
          ⟨faultless, species, .constant value, primary,
            select_constantRate constant _ _ _, fun lowers => ?_, rfl⟩
      have optioned := lowers.optioned
      rw [constant.energetics_eq] at optioned
      exact List.not_mem_nil optioned

end Bound

end Binding

/-! ## Inverse processes -/

/--
A process inverts another one.  The other happens unless it raises columns of the
greatest height.  Wherever it has happened the first may happen at the same origin, can
choose the same partners in any order, and then gives the lattice back.
-/
structure SurfaceProcess.Inverts
    {α : Type}
    (leaving landing : SurfaceProcess α) : Prop where
  lands_iff :
    ∀ {lattice : Lattice} {origin : Nat} {state : Site} {chosen : List Nat},
      lattice.Fits →
        landing.perform.Picks lattice origin state chosen →
          ((∃ landed,
              landing.perform.event? lattice origin chosen = some landed) ↔
            (0 < landing.heightChange → state.height < greatestShort))
  eligible :
    ∀ {lattice : Lattice} {origin : Nat} {state : Site} {chosen : List Nat}
      {landed : Event},
      lattice.Fits →
        lattice.Grounded →
          landing.rule.isEligible? lattice origin = some true →
            landing.perform.Picks lattice origin state chosen →
              landing.perform.event? lattice origin chosen = some landed →
                leaving.rule.isEligible? landed.lattice origin = some true
  restores :
    ∀ {lattice : Lattice} {origin : Nat} {state : Site}
      {chosen partners : List Nat} {landed : Event},
      lattice.Fits →
        lattice.Everywhere Site.Clean →
          landing.rule.isEligible? lattice origin = some true →
            landing.perform.Picks lattice origin state chosen →
              landing.perform.event? lattice origin chosen = some landed →
                partners.Perm chosen →
                  RandomSource.CanYield
                      (leaving.perform.execute? (α := α) landed.lattice origin)
                      (some
                        (.ok
                          (leaving.perform.event landed.lattice origin
                            partners))) ∧
                    (leaving.perform.event landed.lattice origin
                        partners).lattice =
                      lattice

section Undoing

variable
    {α : Type}
    {leaving landing : SurfaceProcess α}
    (undoes : Undoes leaving.rule leaving.perform landing.perform)
    (serves : landing.rule.Serves landing.perform)
    {lattice : Lattice}
    {origin : Nat}
    {state : Site}
    {chosen : List Nat}

include undoes serves

theorem Undoes.effect_effect
    (clean : lattice.Everywhere Site.Clean)
    (eligible : landing.rule.isEligible lattice origin = true)
    (picks : landing.perform.Picks lattice origin state chosen)
    {partners : List Nat}
    (same : partners.Perm chosen) :
    leaving.perform.effect (landing.perform.effect lattice origin chosen) origin
        partners =
      lattice := by
  have room : landing.perform.hasRoom state = true := by
    rcases Rule.isEligible_iff.mp eligible with ⟨found, foundEq, holds⟩
    rw [picks.found] at foundEq
    cases foundEq
    exact serves.hasRoom_origin holds
  apply Lattice.eq_of_parts
  · rw [Perform.config_effect, Perform.config_effect]
  · rw [Perform.coordination_effect, Perform.coordination_effect]
  · exact Array.ext_getElem? (undoes.site?_again picks room clean same)
  · rw [Perform.counts_effect, Perform.counts_effect]

/-- A process inverts another whose rule serves what its own perform undoes. -/
theorem Undoes.inverts : leaving.Inverts landing where
  lands_iff {lattice origin state chosen} fits picks := by
    rw [(picks.checks_event fits).exists_iff]
    exact undoes.fits_landing_iff picks fits
  eligible {lattice origin state chosen landed} fits grounded _ picks happens := by
    rcases (picks.checks_event fits).eq_some_iff.mp happens with ⟨_, rfl⟩
    have above : 0 ≤ state.height :=
      Lattice.grounded_iff_everywhere.mp grounded origin state picks.found
    have eligible :=
      Rule.isEligible_iff.mpr
        ⟨_, picks.site?_effect_origin, undoes.holdsAt_again picks above⟩
    exact
      (leaving.rule.checks_isEligible _ origin).eq_some_iff.mpr
        ⟨fun ruleEq => absurd ruleEq undoes.rule_ne, eligible⟩
  restores {lattice origin state chosen partners landed} fits clean eligible? picks
      happens same := by
    rcases (picks.checks_event fits).eq_some_iff.mp happens with ⟨landedFits, rfl⟩
    have eligible :=
      ((landing.rule.checks_isEligible lattice origin).eq_some_iff.mp eligible?).2
    have restored := undoes.effect_effect serves clean eligible picks same
    have backFits :
        (leaving.perform.effect (landing.perform.effect lattice origin chosen)
          origin partners).Fits := by
      rw [restored]
      exact fits
    exact
      ⟨(undoes.picks_again picks same).canYield_execute? landedFits backFits,
        restored⟩

end Undoing

section Bound

variable {α : Type} [Quantity α]

/--
Of an adsorption and a desorption that read the same terms, none is bound when the
terms name no species; otherwise both are, and the bound desorption inverts the
bound adsorption.
-/
theorem Binding.bind_both
    (terms : List String)
    {landing leaving : Descriptor α}
    {value : α}
    (landingEq : landing.category = .adsorption)
    (leavingEq : leaving.category = .desorption)
    (landingTerms : landing.reactants = terms)
    (leavingTerms : leaving.products = terms)
    (landingBalance : landing.stoichiometry = none)
    (leavingBalance : leaving.stoichiometry = none)
    (landingConstant : ConstantRate landing.energetics value)
    (leavingConstant : ConstantRate leaving.energetics value)
    (registry : Registry α)
    (growth : List String) :
    (namedSpecies registry.vocabulary terms = [] ∧
      ∃ landingFault leavingFault,
        (SurfaceProcess.bind landing registry growth).value =
            .error landingFault ∧
          (SurfaceProcess.bind leaving registry growth).value =
            .error leavingFault) ∨
      ∃ adsorption desorption,
        (SurfaceProcess.bind landing registry growth).value = .ok adsorption ∧
          (SurfaceProcess.bind leaving registry growth).value =
              .ok desorption ∧
            adsorption.species ∈
                namedSpecies registry.vocabulary terms ∧
              desorption.species = adsorption.species ∧
                desorption.mode = adsorption.mode ∧
                  desorption.requiredSites = adsorption.requiredSites ∧
                    desorption.heightChange = -adsorption.heightChange ∧
                      desorption.Inverts adsorption := by
  have landingSpecies :
      primarySpecies? registry.vocabulary landing =
        (namedSpecies registry.vocabulary terms).head? := by
    simp only [primarySpecies?, speciesTerms, landingEq, landingTerms]
  have speciesEq :
      primarySpecies? registry.vocabulary leaving =
        primarySpecies? registry.vocabulary landing := by
    simp only [primarySpecies?, speciesTerms, landingEq, leavingEq,
      landingTerms, leavingTerms]
  have sitesEq : sitesOf leaving = sitesOf landing := by
    simp only [sitesOf, landingEq, leavingEq, landingTerms, leavingTerms]
  have landingBound :=
    bind_constantRate landingConstant landingBalance registry growth
  have leavingBound :=
    bind_constantRate leavingConstant leavingBalance registry growth
  rw [speciesEq] at leavingBound
  cases found : primarySpecies? registry.vocabulary landing with
  | none =>
      rw [found] at landingBound leavingBound
      have unnamed := List.head?_eq_none_iff.mp (landingSpecies.symm.trans found)
      exact Or.inl ⟨unnamed, _, _, landingBound, leavingBound⟩
  | some species =>
      rw [found] at landingBound leavingBound
      have named := List.mem_of_head? (landingSpecies.symm.trans found)
      have unoptioned : allOption ∉ leaving.energetics.options := by
        rw [leavingConstant.energetics_eq]
        exact List.not_mem_nil
      have undoes :=
        parts_undoes registry.vocabulary landingEq leavingEq sitesEq
          unoptioned growth species
      have modeEq :
          modeOf leaving.category species growth =
            modeOf landing.category species growth := by
        rw [landingEq, leavingEq]
        rfl
      exact
        Or.inr
          ⟨_, _, landingBound, leavingBound, named, rfl, modeEq,
            undoes.sites_eq, undoes.heightChange_eq,
            undoes.inverts (SurfaceProcess.serves_of_bind landingBound)⟩

end Bound

/-- A registry of one species. -/
def adatomRegistry : Registry Float :=
  { species := [{ symbol := "A", weight := 12.0 }] }

theorem Lattice.everywhere_clean_of_all
    {lattice : Lattice}
    (checked :
      (lattice.sites.all fun state =>
        state.occupied || state.label == state.below) = true) :
    lattice.Everywhere Site.Clean := by
  intro site state found vacant
  have clean :=
    Array.all_eq_true_iff_forall_mem.mp checked state
      (Array.mem_of_getElem? found)
  rw [vacant, Bool.false_or] at clean
  exact eq_of_beq clean

/-- The lattice that is left when the first height wraps around. -/
def wrappedSites : Lattice :=
  tallestSites.modify 0 fun state => { state with height := leastShort }

end SurfaceKinetics
