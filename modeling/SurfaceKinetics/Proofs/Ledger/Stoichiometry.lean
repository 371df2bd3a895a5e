import SurfaceKinetics.Proofs.Ledger.Holding
import SurfaceKinetics.Proofs.Reaction.Sums
import SurfaceKinetics.Proofs.SurfaceProcess.Fitting

/-!
# Stoichiometry and events

An event of a reaction frees a site of the first species that the reactants name,
and one of the second, and leaves the first species that the adsorbed products
name.  The stoichiometry of the reaction counts every term with its coefficient.
So an event changes what is held by the stoichiometry less all that the line says
beyond those three terms: coefficients other than one, further reactants and
further products.  An elementary line says nothing beyond them, and its events
obey its stoichiometry.
-/

namespace SurfaceKinetics

/-- A term names an adsorbed species rather than a bare site. -/
def IsAdsorbed (term : String) : Prop :=
  term ≠ Binding.marker ∧ occursIn Binding.marker term = true

/-! ## What an event leaves out -/

/-- The first few species, each counted once. -/
def countedOnce (count : Nat) (counted : List (String × Int)) :
    List (String × Int) :=
  (counted.take count).map fun entry => (entry.1, 1)

/-- What is counted beyond the first few species, each counted once. -/
def countedBeyond (count : Nat) (counted : List (String × Int)) :
    List (String × Int) :=
  (counted.take count).map (fun entry => (entry.1, entry.2 - 1)) ++
    counted.drop count

theorem amount_once_add_beyond
    (species : String)
    (count : Nat)
    (counted : List (String × Int)) :
    amount species (countedOnce count counted) +
        amount species (countedBeyond count counted) =
      amount species counted := by
  have taken :
      ∀ entries : List (String × Int),
        amount species (entries.map fun entry => (entry.1, 1)) +
            amount species (entries.map fun entry => (entry.1, entry.2 - 1)) =
          amount species entries := by
    intro entries
    induction entries with
    | nil => rfl
    | cons entry entries induction =>
        simp only [List.map_cons, amount_cons]
        split <;> omega
  rw [countedOnce, countedBeyond, amount_append, ← Int.add_assoc, taken,
    ← amount_append, List.take_append_drop]

/-- A few species that are counted once have nothing beyond them. -/
theorem amount_beyond_eq_zero
    (species : String)
    {count : Nat}
    {counted : List (String × Int)}
    (few : counted.length ≤ count)
    (single : ∀ entry ∈ counted, entry.2 = 1) :
    amount species (countedBeyond count counted) = 0 := by
  have once : countedOnce count counted = counted := by
    rw [countedOnce, List.take_of_length_le few]
    refine Eq.trans ?_ (List.map_id counted)
    refine List.map_congr_left fun entry member => ?_
    rw [← single entry member]
    rfl
  have whole := amount_once_add_beyond species count counted
  rw [once] at whole
  omega

namespace Vocabulary

variable (vocabulary : Vocabulary)

/-- The net coefficient of what a line says beyond what an event does. -/
def leftOut (equation : Equation) (species : String) : Int :=
  amount species (countedBeyond 1 (vocabulary.countedTerms equation.products)) -
    amount species
      (countedBeyond 2 (vocabulary.countedTerms equation.reactants))

/-- At most two reactants and at most one product name a species, each of them once. -/
structure IsElementary (equation : Equation) : Prop where
  reactants : (vocabulary.countedTerms equation.reactants).length ≤ 2
  products : (vocabulary.countedTerms equation.products).length ≤ 1
  single :
    ∀ entry ∈
        vocabulary.countedTerms equation.reactants ++
          vocabulary.countedTerms equation.products,
      entry.2 = 1

variable {vocabulary}

theorem IsElementary.leftOut_eq_zero
    {equation : Equation}
    (elementary : vocabulary.IsElementary equation)
    (species : String) :
    vocabulary.leftOut equation species = 0 := by
  rw [leftOut,
    amount_beyond_eq_zero species elementary.products fun entry member =>
      elementary.single entry (List.mem_append_right _ member),
    amount_beyond_eq_zero species elementary.reactants fun entry member =>
      elementary.single entry (List.mem_append_left _ member)]
  rfl

end Vocabulary

/-! ## What an event holds on to -/

/-- An event changes what is held by the holding change of its perform. -/
theorem Rule.Serves.countHolding_effect
    {rule : Rule}
    {perform : Perform}
    (serves : rule.Serves perform)
    {lattice : Lattice}
    {origin : Nat}
    {state : Site}
    {chosen : List Nat}
    (picks : perform.Picks lattice origin state chosen)
    (holds : rule.holdsAt lattice origin state = true)
    (species : String) :
    ((perform.effect lattice origin chosen).countHolding species : Int) =
      lattice.countHolding species + perform.holdingChange rule species := by
  rw [Lattice.countHolding_eq_tally, Lattice.countHolding_eq_tally,
    serves.holdingChange_eq]
  exact
    picks.tally_effect (fun site => presence species site.held?)
      (serves.presence_originChange holds species)
      fun _ accepted => Perform.presence_partnerChange accepted species

/-- The first of several counted species, counted once. -/
theorem amount_countedOnce_one
    (species : String)
    (counted : List (String × Int)) :
    amount species (countedOnce 1 counted) =
      presence species (counted.map Prod.fst).head? := by
  cases counted with
  | nil => rfl
  | cons entry counted => simp [countedOnce, presence]

/-- The first two of several counted species, counted once. -/
theorem amount_countedOnce_two
    (species : String)
    (entry : String × Int)
    (counted : List (String × Int)) :
    amount species (countedOnce 2 (entry :: counted)) =
      presence species (some entry.1) +
        presence species (counted.map Prod.fst).head? := by
  rw [← amount_countedOnce_one]
  simp [countedOnce, presence]

namespace Binding

variable (vocabulary : Vocabulary)

theorem namedSpecies_of_adsorbed
    {terms : List String}
    (adsorbed : ∀ term ∈ terms, IsAdsorbed term) :
    namedSpecies vocabulary terms =
      (vocabulary.countedTerms terms).map Prod.fst := by
  have all : terms.filter (· ≠ marker) = terms :=
    List.filter_eq_self.mpr fun term member =>
      decide_eq_true (adsorbed term member).1
  rw [namedSpecies, all, vocabulary.map_fst_countedTerms]

variable {α : Type}

/-- The holding change of a reaction is its stoichiometry less what is left out. -/
theorem holdingChange_reactionParts
    {descriptor : Descriptor α}
    (adsorbed :
      ∀ term ∈ descriptor.reactants ++ descriptor.products, IsAdsorbed term)
    (named : namedSpecies vocabulary descriptor.reactants ≠ [])
    (growth : List String)
    (species : String) :
    let parts := reactionParts vocabulary descriptor growth
    let equation := ⟨descriptor.reactants, descriptor.products⟩
    parts.2.holdingChange parts.1 species =
      vocabulary.netCoefficient equation species -
        vocabulary.leftOut equation species := by
  have reactants :=
    namedSpecies_of_adsorbed vocabulary fun term member =>
      adsorbed term (List.mem_append_left _ member)
  have carried :
      descriptor.products.filter (occursIn marker) = descriptor.products :=
    List.filter_eq_self.mpr fun term member =>
      (adsorbed term (List.mem_append_right _ member)).2
  have products :=
    namedSpecies_of_adsorbed vocabulary fun term member =>
      adsorbed term (List.mem_append_right _ member)
  rw [reactants] at named
  dsimp only
  rw [reactionParts, carried, reactants, products]
  dsimp only
  rw [Perform.holdingChange, Vocabulary.netCoefficient, Vocabulary.leftOut,
    ← amount_countedOnce_one,
    ← amount_once_add_beyond species 1
      (vocabulary.countedTerms descriptor.products),
    ← amount_once_add_beyond species 2
      (vocabulary.countedTerms descriptor.reactants)]
  cases counted : vocabulary.countedTerms descriptor.reactants with
  | nil => exact (named (by rw [counted]; rfl)).elim
  | cons entry others =>
      rw [amount_countedOnce_two]
      simp only [List.map_cons, List.head?_cons, Option.getD_some,
        List.getElem?_cons_succ, ← List.head?_eq_getElem?]
      omega

variable [Quantity α]

/-- A process acts on a species that its terms name. -/
theorem namedSpecies_ne_nil
    {descriptor : Descriptor α}
    {registry : Registry α}
    {growth : List String}
    {process : SurfaceProcess α}
    (assembled : assemble descriptor registry growth = .ok process) :
    namedSpecies registry.vocabulary (speciesTerms descriptor) ≠ [] := by
  intro unnamed
  rcases assemble_eq_ok_iff.mp assembled with ⟨_, species, _, primary, _⟩
  rw [primarySpecies?, unnamed] at primary
  cases primary

end Binding

/-! ## Reactions -/

section Reactions

variable
    {α : Type}
    [Quantity α]
    {descriptor : Descriptor α}
    {registry : Registry α}
    {growth : List String}
    {process : SurfaceProcess α}
    (bound :
      (SurfaceProcess.bind descriptor registry growth).value = .ok process)
    (reaction : descriptor.category = .reaction)

include bound reaction

theorem SurfaceProcess.perform_of_reaction :
    ∃ partner product grows, process.perform = .react partner product grows := by
  rcases Binding.assemble_ok (assembled_of_bind bound).1 with
    ⟨acting, _, _, _, performEq⟩
  rw [performEq, Binding.parts]
  simp only [reaction]
  exact ⟨_, _, _, rfl⟩

variable
    (adsorbed :
      ∀ term ∈ descriptor.reactants ++ descriptor.products, IsAdsorbed term)

include adsorbed

theorem SurfaceProcess.holdingChange_of_reaction (species : String) :
    let equation := ⟨descriptor.reactants, descriptor.products⟩
    process.holdingChange species =
      registry.vocabulary.netCoefficient equation species -
        registry.vocabulary.leftOut equation species := by
  have assembled := (assembled_of_bind bound).1
  rcases Binding.assemble_ok assembled with
    ⟨acting, _, _, ruleEq, performEq⟩
  have named := Binding.namedSpecies_ne_nil assembled
  have partsEq :
      Binding.parts registry.vocabulary descriptor growth acting =
        Binding.reactionParts registry.vocabulary descriptor growth := by
    simp only [Binding.parts, reaction]
  rw [Binding.speciesTerms, reaction] at named
  dsimp only
  rw [SurfaceProcess.holdingChange, ruleEq, performEq, partsEq]
  exact
    Binding.holdingChange_reactionParts registry.vocabulary adsorbed named
      growth species

end Reactions

variable {α : Type} [Quantity α]

/--
The events of a process change what is held of species by their coefficients less what
the line of the process says beyond an event.
-/
structure SurfaceProcess.Balances
    (process : SurfaceProcess α)
    (vocabulary : Vocabulary)
    (descriptor : Descriptor α)
    (coefficients : List Int)
    (lattice : Lattice)
    (site : Nat) :
    Prop where
  /-- With whatever partners it draws, an event happens if it fits. -/
  surely :
    RandomSource.Surely (process.perform.execute? (α := α) lattice site)
      fun outcome =>
        ∃ state chosen,
          process.perform.Picks lattice site state chosen ∧
            outcome =
              (process.perform.event? lattice site chosen).map Except.ok
  /-- Only a column of the greatest height cannot be raised by an event. -/
  happens_iff :
    ∀ state chosen,
      process.perform.Picks lattice site state chosen →
        ((∃ event, process.perform.event? lattice site chosen = some event) ↔
          (0 < process.heightChange → state.height < greatestShort))
  countHolding_eq :
    ∀ state chosen event,
      process.perform.Picks lattice site state chosen →
        process.perform.event? lattice site chosen = some event →
          ∀ (index : Nat) (species : String) (coefficient : Int),
            descriptor.species[index]? = some species →
              coefficients[index]? = some coefficient →
                (event.lattice.countHolding species : Int) =
                  lattice.countHolding species + coefficient -
                    vocabulary.leftOut descriptor.equation species

/--
In 32 bits a reaction of adsorbed species happens wherever it may, unless it raises a
column of the greatest height, and every event of it changes what is held of each
species by the stoichiometry less what it leaves out of the line.  So it obeys the
stoichiometry exactly when it leaves out nothing of any species that takes part, as an
elementary line does.
-/
theorem reaction_obeys_stoichiometry
    {registry : Registry α}
    {line : String}
    {ordinal : Nat}
    {compiled : Noted (Descriptor α)}
    (compiles : registry.vocabulary.compile? line ordinal = some (.ok compiled))
    (reaction : compiled.value.category = .reaction)
    (adsorbed :
      ∀ term ∈ compiled.value.reactants ++ compiled.value.products,
        IsAdsorbed term)
    {growth : List String}
    {process : SurfaceProcess α}
    (bound :
      (SurfaceProcess.bind compiled.value registry growth).value = .ok process) :
    ∃ coefficients,
      compiled.value.stoichiometry = some coefficients ∧
        coefficients.length = compiled.value.species.length ∧
          (∀ coefficient ∈ coefficients, IsShort coefficient) ∧
            (∀ lattice site,
              lattice.Fits →
                process.rule.isEligible? lattice site = some true →
                  process.Balances registry.vocabulary compiled.value
                    coefficients lattice site) ∧
              (registry.vocabulary.IsElementary compiled.value.equation →
                ∀ species,
                  registry.vocabulary.leftOut compiled.value.equation species =
                    0) := by
  rcases (registry.vocabulary.checks_compile line ordinal).eq_some_iff.mp compiles
    with ⟨lineFits, exactly⟩
  have sums :=
    (registry.vocabulary.lineFits_iff_of_reaction exactly reaction).mp lineFits
  rcases (registry.vocabulary.compile_eq_ok_iff).mp exactly with
    ⟨equation, _, _, rfl⟩
  rw [Vocabulary.value_describe] at *
  have serves := SurfaceProcess.serves_of_bind bound
  refine
    ⟨_, if_pos reaction, List.length_map .., ?_, ?_,
      fun elementary => elementary.leftOut_eq_zero⟩
  · rw [List.forall_mem_map]
    intro species member
    have whole := sums species member _ List.prefix_rfl
    rwa [Vocabulary.partialSum_signedTerms] at whole
  intro lattice site fits eligible?
  have eligible :=
    ((process.rule.checks_isEligible lattice site).eq_some_iff.mp eligible?).2
  rcases Rule.isEligible_iff.mp eligible with ⟨originState, originFound, holds⟩
  refine { surely := ?_, happens_iff := ?_, countHolding_eq := ?_ }
  · have enough := Rule.partners_le_of_cover serves.cover_needs holds
    refine (process.perform.execute?_enough fits originFound enough).mono ?_
    exact fun outcome happens => ⟨originState, happens⟩
  · intro state chosen picks
    rw [(picks.checks_event fits).exists_iff]
    rcases SurfaceProcess.perform_of_reaction bound reaction with
      ⟨partner, product, grows, performEq⟩
    refine Perform.fits_effect_iff_of_not_sinks ?_ ?_ fits picks
    · rw [performEq]
      rfl
    · rw [performEq]
      cases partner <;> exact Nat.succ_pos _
  · intro state chosen event picks happens index species coefficient speciesFound
      found
    rcases (picks.checks_event fits).eq_some_iff.mp happens with ⟨_, rfl⟩
    cases picks.found.symm.trans originFound
    have coefficientEq :
        registry.vocabulary.netCoefficient equation species = coefficient := by
      rw [List.getElem?_map] at found
      change (registry.vocabulary.participants equation)[index]? = _
        at speciesFound
      rw [speciesFound] at found
      exact Option.some.inj found
    have changed := serves.countHolding_effect picks holds species
    have changeEq :
        process.perform.holdingChange process.rule species =
          registry.vocabulary.netCoefficient equation species -
            registry.vocabulary.leftOut equation species :=
      SurfaceProcess.holdingChange_of_reaction bound reaction adsorbed species
    rw [Perform.event, changed, changeEq, coefficientEq]
    exact (Int.add_sub_assoc ..).symm

/-! ## Lines between two sites -/

/-- Two species and what they couple to. -/
def couplingRegistry : Registry Float :=
  { species := [⟨"A", 10⟩, ⟨"AB", 30⟩, ⟨"B", 20⟩] }

/-- Two neighbours that hold a species each. -/
def neighbouring (first second : String) : Lattice :=
  ((Lattice.ofConfig
        { kind := .simpleCubic
          columns := 2
          rows := 1
          initialHeight := 10 }).modify 0 (Site.cover · first)).modify 1
    (Site.cover · second)

instance (vocabulary : Vocabulary) (equation : Equation) :
    Decidable (vocabulary.IsElementary equation) :=
  decidable_of_iff
    ((vocabulary.countedTerms equation.reactants).length ≤ 2 ∧
      (vocabulary.countedTerms equation.products).length ≤ 1 ∧
        ∀ entry ∈
            vocabulary.countedTerms equation.reactants ++
              vocabulary.countedTerms equation.products,
          entry.2 = 1)
    ⟨fun ⟨reactants, products, single⟩ => ⟨reactants, products, single⟩,
      fun ⟨reactants, products, single⟩ => ⟨reactants, products, single⟩⟩

instance (term : String) : Decidable (IsAdsorbed term) :=
  inferInstanceAs (Decidable (_ ∧ _))

theorem reaction_obeys_stoichiometry_coupling :
    ∃ (compiled : Noted (Descriptor Float)) (process : SurfaceProcess Float)
      (state : Site) (event : Event),
      couplingRegistry.vocabulary.compile? "A* + B* -> AB*, 1.0" 0 =
          some (.ok compiled) ∧
        compiled.value.category = .reaction ∧
          (∀ term ∈ compiled.value.reactants ++ compiled.value.products,
            IsAdsorbed term) ∧
            (SurfaceProcess.bind compiled.value couplingRegistry []).value =
                .ok process ∧
              compiled.value.species = ["A", "AB", "B"] ∧
                compiled.value.stoichiometry = some [-1, 1, -1] ∧
                  process.rule.isEligible? (neighbouring "A" "B") 0 = some true ∧
                    process.perform.Picks (neighbouring "A" "B") 0 state [1] ∧
                      process.perform.event? (neighbouring "A" "B") 0 [1] =
                          some event ∧
                        event.lattice.countHolding "AB" = 1 := by
  have ahead :
      ((couplingRegistry.boundLine? [] "A* + B* -> AB*, 1.0" 0).any
        fun (compiled, process) =>
          compiled.value.category = .reaction &&
            (compiled.value.reactants ++ compiled.value.products).all
              (IsAdsorbed ·) &&
            compiled.value.species = ["A", "AB", "B"] &&
            compiled.value.stoichiometry = some [-1, 1, -1] &&
            process.rule.isEligible? (neighbouring "A" "B") 0 = some true &&
            couplingRegistry.vocabulary.IsElementary compiled.value.equation &&
            process.perform = .react (some "B") (some "AB") false &&
            (couplingRegistry.vocabulary.stoichiometryShort? compiled.value.equation
                compiled.value.species).isSome) = true := by
    decide +kernel
  rcases (Option.any_eq_true _ _).mp ahead with
    ⟨⟨compiled, process⟩, found, checked⟩
  rcases Registry.of_boundLine? found with ⟨compiles, bound⟩
  simp only [Bool.and_eq_true, List.all_eq_true, decide_eq_true_eq] at checked
  rcases checked with
    ⟨⟨⟨⟨⟨⟨⟨reaction, adsorbed⟩, speciesEq⟩, entries⟩, eligible⟩, elementary⟩,
      performEq⟩, summed⟩
  have compilesShort :=
    Vocabulary.compile?_of_summed compiles summed
  rcases reaction_obeys_stoichiometry compilesShort reaction adsorbed bound with
    ⟨coefficients, stoichiometryEq, _, _, obeys, nothing⟩
  rw [entries] at stoichiometryEq
  cases stoichiometryEq
  have balances := obeys (neighbouring "A" "B") 0 (by decide +kernel) eligible
  let state := (Site.vacant 10 "").cover "A"
  have picks : process.perform.Picks (neighbouring "A" "B") 0 state [1] := by
    rw [performEq]
    exact
      { found := by decide +kernel
        drawn := ⟨rfl, [], .of_eq (by decide +kernel)⟩ }
  rcases (balances.happens_iff state [1] picks).mpr fun _ => by decide with
    ⟨event, happens⟩
  have changed :=
    balances.countHolding_eq state [1] event picks happens 1 "AB" 1
      (by rw [speciesEq]; rfl) rfl
  have none : (neighbouring "A" "B").countHolding "AB" = 0 := by
    decide +kernel
  rw [nothing elementary, none] at changed
  exact
    ⟨compiled, process, state, event, compilesShort, reaction, adsorbed, bound,
      speciesEq, entries, eligible, picks, happens, by omega⟩

/-- A second product does not appear: one site holds it where two should. -/
theorem reaction_leaves_products_out :
    ∃ (compiled : Noted (Descriptor Float)) (process : SurfaceProcess Float)
      (state : Site) (event : Event),
      couplingRegistry.vocabulary.compile? "A* + A* -> B* + B*, 1.0" 0 =
          some (.ok compiled) ∧
        compiled.value.category = .reaction ∧
          (∀ term ∈ compiled.value.reactants ++ compiled.value.products,
            IsAdsorbed term) ∧
            (SurfaceProcess.bind compiled.value couplingRegistry []).value =
                .ok process ∧
              compiled.value.species = ["A", "B"] ∧
                compiled.value.stoichiometry = some [-2, 2] ∧
                  process.rule.isEligible? (neighbouring "A" "A") 0 = some true ∧
                    process.perform.Picks (neighbouring "A" "A") 0 state [1] ∧
                      process.perform.event? (neighbouring "A" "A") 0 [1] =
                          some event ∧
                        (neighbouring "A" "A").countHolding "B" = 0 ∧
                          event.lattice.countHolding "B" = 1 := by
  have ahead :
      ((couplingRegistry.boundLine? [] "A* + A* -> B* + B*, 1.0" 0).any
        fun (compiled, process) =>
          compiled.value.category = .reaction &&
            (compiled.value.reactants ++ compiled.value.products).all
              (IsAdsorbed ·) &&
            compiled.value.species = ["A", "B"] &&
            compiled.value.stoichiometry = some [-2, 2] &&
            process.rule.isEligible? (neighbouring "A" "A") 0 = some true &&
            process.perform = .react (some "A") (some "B") false &&
            (couplingRegistry.vocabulary.stoichiometryShort? compiled.value.equation
                compiled.value.species).isSome) = true := by
    decide +kernel
  rcases (Option.any_eq_true _ _).mp ahead with
    ⟨⟨compiled, process⟩, found, checked⟩
  rcases Registry.of_boundLine? found with ⟨compiles, bound⟩
  simp only [Bool.and_eq_true, List.all_eq_true, decide_eq_true_eq] at checked
  rcases checked with
    ⟨⟨⟨⟨⟨⟨reaction, adsorbed⟩, speciesEq⟩, entries⟩, eligible⟩, performEq⟩,
      summed⟩
  have happens :
      ((Perform.event? (.react (some "A") (some "B") false)
        (neighbouring "A" "A") 0 [1]).any fun event =>
          event.lattice.countHolding "B" = 1) = true := by
    decide +kernel
  rcases (Option.any_eq_true _ _).mp happens with ⟨event, happens, held⟩
  refine
    ⟨compiled, process, (Site.vacant 10 "").cover "A", event,
      Vocabulary.compile?_of_summed compiles summed, reaction, adsorbed, bound,
      speciesEq, entries, eligible, ?_, ?_, by decide +kernel,
      of_decide_eq_true held⟩
  · rw [performEq]
    exact
      { found := by decide +kernel
        drawn := ⟨rfl, [], .of_eq (by decide +kernel)⟩ }
  · rw [performEq]
    exact happens

end SurfaceKinetics
