import SurfaceKinetics.Proofs.Reaction.Participation
import SurfaceKinetics.Proofs.Simulation.Coordination
import SurfaceKinetics.Proofs.SurfaceProcess.Acceptance

/-!
# What can be bound

A descriptor is bound when it has no fault of its own, names a species on the side that
it consumes, or releases if it is a desorption, and has energetics that select a rate
law.  The rule and the perform that its category and its mode choose agree on the number
of sites, whatever the terms are, with one exception: a desorption that lowers columns
and has the option `all` is eligible where all neighbours are occupied, and this says
nothing of a second site.
-/

namespace SurfaceKinetics

namespace Binding

variable {α : Type}

/-! ## Species -/

theorem namedSpecies_eq_nil_iff {vocabulary : Vocabulary} {terms : List String} :
    namedSpecies vocabulary terms = [] ↔
      ∀ term ∈ terms,
        term ≠ marker →
          ∀ symbol ∈ vocabulary.symbols, ¬ symbol.toList <:+: term.toList := by
  rw [namedSpecies, List.filterMap_eq_nil_iff]
  simp only [List.mem_filter, decide_eq_true_eq, and_imp,
    Vocabulary.longestMatch?_eq_none_iff, occursIn_iff_isInfix]

theorem primarySpecies?_eq_none_iff
    (vocabulary : Vocabulary)
    {descriptor : Descriptor α} :
    primarySpecies? vocabulary descriptor = none ↔
      ∀ term ∈ speciesTerms descriptor,
        term ≠ marker →
          ∀ symbol ∈ vocabulary.symbols, ¬ symbol.toList <:+: term.toList := by
  rw [primarySpecies?, List.head?_eq_none_iff, namedSpecies_eq_nil_iff]

/-! ## Rules and performs -/

/-- A desorption that lowers columns asks for all neighbours of several sites. -/
structure LowersSeveralWithAll
    (descriptor : Descriptor α)
    (species : String)
    (growth : List String) : Prop where
  category_eq : descriptor.category = .desorption
  mode_eq : modeOf descriptor.category species growth = .height
  optioned : allOption ∈ descriptor.energetics.options
  several : 1 < sitesOf descriptor

/-- In all other cases the rule and the perform of a binding agree. -/
theorem isConsistent_parts_iff
    (vocabulary : Vocabulary)
    (descriptor : Descriptor α)
    (growth : List String)
    (species : String) :
    SurfaceProcess.isConsistent
          (parts vocabulary descriptor growth species).1
          (parts vocabulary descriptor growth species).2 =
        true ↔
      ¬ LowersSeveralWithAll descriptor species growth := by
  have other :
      ∀ category, descriptor.category = category → category ≠ .desorption →
        ¬ LowersSeveralWithAll descriptor species growth := by
    rintro category rfl distinct lowers
    exact distinct lowers.category_eq
  rcases Nat.exists_eq_add_of_le' (sitesOf_pos descriptor) with ⟨extra, sitesEq⟩
  simp only [parts, sitesEq, Nat.add_sub_cancel]
  split
  · next categoryEq _ =>
      refine iff_of_true ?_ (other _ categoryEq (by decide))
      cases extra <;> simp [SurfaceProcess.isConsistent, Rule.extraSites]
  · next categoryEq _ =>
      refine iff_of_true ?_ (other _ categoryEq (by decide))
      cases extra <;> simp [SurfaceProcess.isConsistent, Rule.extraSites]
  · next categoryEq modeEq =>
      split_ifs with optioned
      · rw [SurfaceProcess.isConsistent, beq_iff_eq]
        constructor
        · intro alone lowers
          exact absurd (sitesEq.trans alone) lowers.several.ne'
        · intro proper
          by_contra notAlone
          exact proper ⟨categoryEq, modeEq, optioned, by omega⟩
      · refine iff_of_true ?_ fun lowers => optioned lowers.optioned
        simp [SurfaceProcess.isConsistent, Rule.extraSites]
  · next modeEq =>
      refine iff_of_true ?_ fun lowers => ?_
      · simp [SurfaceProcess.isConsistent, Rule.extraSites]
      · cases modeEq.symm.trans lowers.mode_eq
  · next categoryEq _ => exact iff_of_true rfl (other _ categoryEq (by decide))
  · next categoryEq _ => exact iff_of_true rfl (other _ categoryEq (by decide))
  · next categoryEq => exact iff_of_true rfl (other _ categoryEq (by decide))

/-- Landing and leaving change as many sites as the terms of their side name. -/
theorem sites_parts
    (vocabulary : Vocabulary)
    {descriptor : Descriptor α}
    (exchange :
      descriptor.category = .adsorption ∨ descriptor.category = .desorption)
    (growth : List String)
    (species : String) :
    (parts vocabulary descriptor growth species).2.comparesSites = true ∧
      (parts vocabulary descriptor growth species).2.sites = sitesOf descriptor := by
  rcases exchange with categoryEq | categoryEq
  · simp only [parts, categoryEq]
    cases modeOf .adsorption species growth with
    | height => exact ⟨rfl, rfl⟩
    | label => exact ⟨rfl, rfl⟩
  · simp only [parts, categoryEq]
    cases modeOf .desorption species growth with
    | height => exact ⟨rfl, rfl⟩
    | label => exact ⟨rfl, rfl⟩

theorem modeOf_eq_height_iff_mem
    {category : Category}
    {species : String}
    {growth : List String} :
    modeOf category species growth = .height ↔
      category ≠ .reaction ∧ species ∈ growth := by
  cases category <;> simp [modeOf]

/-- A reaction changes heights when one of its products grows the film. -/
theorem changesHeights_parts_of_reaction
    {vocabulary : Vocabulary}
    {descriptor : Descriptor α}
    (reaction : descriptor.category = .reaction)
    {growth : List String}
    {species : String} :
    (parts vocabulary descriptor growth species).2.changesHeights = true ↔
      ∃ term ∈ descriptor.products, ∃ product ∈ growth,
        vocabulary.longestMatch? term = some product := by
  simp only [parts, reaction, reactionParts, Perform.changesHeights, List.any_eq_true,
    List.mem_filterMap, decide_eq_true_eq]
  constructor
  · rintro ⟨product, ⟨term, member, found⟩, grows⟩
    exact ⟨term, member, product, grows, found⟩
  · rintro ⟨term, member, product, grows, found⟩
    exact ⟨product, ⟨term, member, found⟩, grows⟩

end Binding

/-! ## Bound processes -/

namespace RateLaw

variable {α : Type} [Quantity α]

/-- A rate law that has been selected has no fault. -/
theorem fault?_of_select
    {name : String}
    {category : Category}
    {energetics : Energetics α}
    {mass : α}
    {law : RateLaw α}
    (selected : select name category energetics mass = .ok law) :
    law.fault? = none := by
  rw [select] at selected
  split at selected
  · cases selected
  · split at selected
    · cases selected
    · next faultless =>
        cases selected
        exact faultless

end RateLaw

namespace SurfaceProcess

variable {α : Type} [Quantity α]

/-- With a law that was selected only the numbers of sites can be wrong. -/
theorem fault?_processOf_eq_none_iff
    {registry : Registry α}
    {growth : List String}
    {descriptor : Descriptor α}
    {species : String}
    {law : RateLaw α}
    (faultless : law.fault? = none) :
    (Binding.processOf registry growth descriptor species law).fault? = none ↔
      ¬ Binding.LowersSeveralWithAll descriptor species growth := by
  rw [← Binding.isConsistent_parts_iff registry.vocabulary]
  by_cases consistent :
      isConsistent (Binding.parts registry.vocabulary descriptor growth species).1
          (Binding.parts registry.vocabulary descriptor growth species).2 =
        true
  · refine iff_of_true ?_ consistent
    simp [fault?, Binding.processOf, ofParts, consistent, faultless]
  · refine iff_of_false ?_ consistent
    simp [fault?, Binding.processOf, ofParts, consistent]

/-- What it takes to be bound. -/
theorem bind_eq_ok_iff
    {descriptor : Descriptor α}
    {registry : Registry α}
    {growth : List String}
    {process : SurfaceProcess α} :
    (bind descriptor registry growth).value = .ok process ↔
      descriptor.fault? = none ∧
        ∃ species law,
          Binding.primarySpecies? registry.vocabulary descriptor = some species ∧
            RateLaw.select descriptor.name descriptor.category descriptor.energetics
                (Binding.massOf registry species) =
              .ok law ∧
              ¬ Binding.LowersSeveralWithAll descriptor species growth ∧
                process =
                  Binding.processOf registry growth descriptor species law := by
  constructor
  · intro bound
    rcases assembled_of_bind bound with ⟨assembled, processFaultless⟩
    rcases Binding.assemble_eq_ok_iff.mp assembled with
      ⟨faultless, species, law, primary, selected, rfl⟩
    have proper :=
      (fault?_processOf_eq_none_iff (RateLaw.fault?_of_select selected)).mp
        processFaultless
    exact ⟨faultless, species, law, primary, selected, proper, rfl⟩
  · rintro ⟨faultless, species, law, primary, selected, proper, rfl⟩
    let process := Binding.processOf registry growth descriptor species law
    have assembled : Binding.assemble descriptor registry growth = .ok process :=
      Binding.assemble_eq_ok_iff.mpr
        ⟨faultless, species, law, primary, selected, rfl⟩
    have processFaultless : process.fault? = none :=
      (fault?_processOf_eq_none_iff (RateLaw.fault?_of_select selected)).mpr proper
    rw [bind, assembled]
    exact (checked_eq_ok_iff _).mpr processFaultless

/-- A descriptor that is not bound has a fault, or its species, law or sites are wrong. -/
theorem bind_eq_error_iff
    {descriptor : Descriptor α}
    {registry : Registry α}
    {growth : List String} :
    (∃ fault, (bind descriptor registry growth).value = .error fault) ↔
      descriptor.fault? ≠ none ∨
        Binding.primarySpecies? registry.vocabulary descriptor = none ∨
          (∃ species fault,
              Binding.primarySpecies? registry.vocabulary descriptor = some species ∧
                RateLaw.select descriptor.name descriptor.category
                    descriptor.energetics (Binding.massOf registry species) =
                  .error fault) ∨
            ∃ species,
              Binding.primarySpecies? registry.vocabulary descriptor = some species ∧
                Binding.LowersSeveralWithAll descriptor species growth := by
  constructor
  · rintro ⟨fault, failed⟩
    by_contra! neither
    rcases neither with ⟨faultless, primary, lawful, proper⟩
    rcases Option.ne_none_iff_exists'.mp primary with ⟨species, primaryEq⟩
    cases selected :
      RateLaw.select descriptor.name descriptor.category descriptor.energetics
        (Binding.massOf registry species) with
    | error rateFault => exact lawful species rateFault primaryEq selected
    | ok law =>
        have bound :=
          bind_eq_ok_iff.mpr
            ⟨faultless, species, law, primaryEq, selected, proper species primaryEq,
              rfl⟩
        exact nomatch failed.symm.trans bound
  · intro reason
    cases outcome : (bind descriptor registry growth).value with
    | error fault => exact ⟨fault, rfl⟩
    | ok process =>
        rcases bind_eq_ok_iff.mp outcome with
          ⟨faultless, species, law, primary, selected, proper, _⟩
        rcases reason with faulty | unnamed | ⟨other, fault, same, rejected⟩ |
          ⟨other, same, lowers⟩
        · exact absurd faultless faulty
        · exact nomatch primary.symm.trans unnamed
        · cases primary.symm.trans same
          exact nomatch selected.symm.trans rejected
        · cases primary.symm.trans same
          exact absurd lowers proper

end SurfaceProcess

variable {α : Type} [Quantity α]

/--
A compiled descriptor is bound unless a number is not finite, no term of its side beside
the bare marker has a declared species in it, its energetics select no rate law, or it is
a desorption of several sites that lowers columns and has the option `all`.  The bound
process acts on the species of its side and is in height mode when this grows the film
and it is no reaction; it changes heights in height mode, or as a reaction with a product
that grows the film.  Landing and leaving change as many sites as their side names, and
the rule promises all of them but the origin.
-/
theorem bind_fails_only_for_reasons
    {registry : Registry α}
    {marker line : String}
    {ordinal : Nat}
    {compiled : Noted (Descriptor α)}
    (compiles :
      Vocabulary.compile { symbols := registry.symbols, marker } line ordinal =
        .ok compiled)
    (growth : List String) :
    let descriptor := compiled.value
    let primary? := Binding.primarySpecies? registry.vocabulary descriptor
    ((∃ fault,
        (SurfaceProcess.bind descriptor registry growth).value = .error fault) ↔
      (∃ value ∈ descriptor.energetics.values, Quantity.isFinite value = false) ∨
        (∀ term ∈ Binding.speciesTerms descriptor,
            term ≠ Binding.marker →
              ∀ symbol ∈ registry.symbols, ¬ symbol.toList <:+: term.toList) ∨
          (∃ species fault,
              primary? = some species ∧
                RateLaw.select descriptor.name descriptor.category
                    descriptor.energetics (Binding.massOf registry species) =
                  .error fault) ∨
            ∃ species,
              primary? = some species ∧
                Binding.LowersSeveralWithAll descriptor species growth) ∧
      ∀ process,
        (SurfaceProcess.bind descriptor registry growth).value = .ok process →
          process.requiredSites = process.perform.sites ∧
            primary? = some process.species ∧
              (process.mode = .height ↔
                  descriptor.category ≠ .reaction ∧ process.species ∈ growth) ∧
                (process.perform.changesHeights = true →
                    process.mode = .height ∨
                      descriptor.category = .reaction ∧
                        ∃ term ∈ descriptor.products, ∃ product ∈ growth,
                          registry.vocabulary.longestMatch? term = some product) ∧
                  (descriptor.category = .adsorption ∨
                      descriptor.category = .desorption →
                    process.requiredSites = Binding.sitesOf descriptor ∧
                      process.rule.extraSites + 1 = process.requiredSites) := by
  intro descriptor primary?
  have faulty :
      descriptor.fault? ≠ none ↔
        ∃ value ∈ descriptor.energetics.values, Quantity.isFinite value = false := by
    rw [Option.ne_none_iff_exists']
    simp only [descriptor, Vocabulary.fault?_eq_some_iff_of_compile _ compiles,
      exists_eq_left]
  refine ⟨?_, fun process bound => ?_⟩
  · rw [SurfaceProcess.bind_eq_error_iff, faulty, Binding.primarySpecies?_eq_none_iff]
    rfl
  · rcases SurfaceProcess.bind_eq_ok_iff.mp bound with
      ⟨_, species, law, primary, _, proper, rfl⟩
    have consistent :=
      (Binding.isConsistent_parts_iff registry.vocabulary _ _ _).mpr proper
    refine ⟨rfl, primary, Binding.modeOf_eq_height_iff_mem, fun changes => ?_,
      fun exchange => ?_⟩
    · by_cases reaction : descriptor.category = .reaction
      · exact
          Or.inr
            ⟨reaction, (Binding.changesHeights_parts_of_reaction reaction).mp changes⟩
      · exact
          Or.inl
            ((Binding.modeOf_eq_height_iff _ _ _ _).mpr ⟨changes, reaction⟩)
    · rcases Binding.sites_parts registry.vocabulary exchange growth species with
        ⟨compared, sitesEq⟩
      rcases (SurfaceProcess.isConsistent_iff compared).mp consistent with
        ⟨positive, extraEq⟩
      exact
        ⟨sitesEq,
          (congrArg (· + 1) extraEq).trans (Nat.sub_add_cancel positive)⟩

/-- A species that may grow the film. -/
def singleRegistry : Registry ℚ :=
  { species := [{ symbol := "A", weight := 12 }] }

/-- Two particles that leave two sites. -/
def pairLeaving : Equation where
  reactants := ["2A*"]
  products := ["2A", "*", "*"]

/-- Leaving two sites with the option `all` is bound unless it lowers columns. -/
theorem bind_fails_only_for_reasons_pair :
    ∃ compiled : Noted (Descriptor ℚ),
      Vocabulary.compile { symbols := singleRegistry.symbols }
          "2A* -> 2A + * + *, all 1.0" 0 =
        .ok compiled ∧
        (∃ fault,
          (SurfaceProcess.bind compiled.value singleRegistry ["A"]).value =
            .error fault) ∧
          ∃ process,
            (SurfaceProcess.bind compiled.value singleRegistry []).value =
              .ok process ∧
              process.species = "A" ∧
                process.mode ≠ .height ∧
                  process.rule.extraSites + 1 = process.requiredSites := by
  let vocabulary := singleRegistry.vocabulary
  let energetics : Energetics ℚ := { values := [1], options := ["all"] }
  have split :
      Equation.ofText? (α := ℚ) "2A* -> 2A + * + *".toList = .ok pairLeaving :=
    Equation.ofText?_eq_ok_iff.mpr
      ⟨"2A* ".toList, " 2A + * + *".toList, by decide +kernel, by decide +kernel,
        by decide +kernel, by decide, by decide⟩
  have fields :
      Vocabulary.lineFields "2A* -> 2A + * + *, all 1.0" =
        ("2A* -> 2A + * + *".toList, "all 1.0".toList) := by
    decide +kernel
  have fieldEq : Vocabulary.fieldEnergetics "all 1.0".toList = energetics := by
    refine congrArg₂ Energetics.mk ?_ ?_
    · decide +kernel
    · decide +kernel
  have compiles :
      vocabulary.compile "2A* -> 2A + * + *, all 1.0" 0 =
        .ok (vocabulary.describe "2A* -> 2A + * + *" pairLeaving energetics 0) := by
    refine vocabulary.compile_eq_ok_iff.mpr ⟨pairLeaving, ?_⟩
    rw [fields]
    exact ⟨split, rfl, by rw [String.ofList_toList, fieldEq]⟩
  have descriptorEq :=
    vocabulary.value_describe "2A* -> 2A + * + *" pairLeaving energetics 0
  have categoryEq : vocabulary.classify pairLeaving = .desorption := by decide +kernel
  have primary :
      Binding.primarySpecies? vocabulary
          (vocabulary.descriptorOf "2A* -> 2A + * + *" pairLeaving energetics 0) =
        some "A" := by
    decide +kernel
  have selected :
      ∀ name mass,
        RateLaw.select name (vocabulary.classify pairLeaving) energetics mass =
          .ok (.constant 1) := by
    intro name mass
    rw [categoryEq]
    rfl
  have lowering := bind_fails_only_for_reasons compiles ["A"]
  have uncovering := bind_fails_only_for_reasons compiles []
  dsimp only at lowering uncovering
  rw [descriptorEq] at lowering uncovering
  refine ⟨_, compiles, ?_, ?_⟩
  · rw [descriptorEq]
    have lowers :
        Binding.LowersSeveralWithAll
          (vocabulary.descriptorOf "2A* -> 2A + * + *" pairLeaving energetics 0) "A"
          ["A"] :=
      ⟨categoryEq, by decide +kernel, by decide +kernel, by decide +kernel⟩
    exact lowering.1.mpr (Or.inr (Or.inr (Or.inr ⟨"A", primary, lowers⟩)))
  · rw [descriptorEq]
    cases outcome :
      (SurfaceProcess.bind
        (vocabulary.descriptorOf "2A* -> 2A + * + *" pairLeaving energetics 0)
        singleRegistry []).value with
    | error fault =>
        exfalso
        rcases uncovering.1.mp ⟨fault, outcome⟩ with
          ⟨value, _, infinite⟩ | unnamed | ⟨species, fault, _, rejected⟩ |
            ⟨species, _, lowers⟩
        · exact nomatch infinite.symm.trans (ExactQuantity.isFinite_eq value)
        · have absent := (Binding.primarySpecies?_eq_none_iff vocabulary).mpr unnamed
          exact nomatch primary.symm.trans absent
        · exact nomatch (selected _ _).symm.trans rejected
        · exact List.not_mem_nil (Binding.modeOf_eq_height_iff_mem.mp lowers.mode_eq).2
    | ok process =>
        rcases uncovering.2 process outcome with
          ⟨_, named, heightIff, _, extraSitesEq⟩
        refine ⟨process, rfl, ?_, ?_, (extraSitesEq (Or.inr categoryEq)).2⟩
        · exact (Option.some.inj (primary.symm.trans named)).symm
        · exact fun height => List.not_mem_nil (heightIff.mp height).2

end SurfaceKinetics
