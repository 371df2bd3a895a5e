import SurfaceKinetics.Proofs.Reaction.Sums
import SurfaceKinetics.Proofs.Text.Numeral

/-!
# Partial sums of a stoichiometry

The stoichiometry of a reaction is summed term by term, the reactants before the
products, and a term has a coefficient that fits into 32 bits with sign.  A partial sum
is bounded by the terms that name its species, and there may be any number of these.
When no coefficient is negative, the sums descend along the reactants and ascend along
the products.  So they all fit exactly when those after the last reactant and after the
last product do.
-/

namespace SurfaceKinetics

namespace Vocabulary

/-- How many terms name a species. -/
def namings
    (vocabulary : Vocabulary)
    (species : String)
    (terms : List (Int × String)) :
    Nat :=
  terms.countP fun term => vocabulary.longestMatch? term.2 = some species

variable (vocabulary : Vocabulary)

/-! ## Bounds -/

theorem natAbs_le_of_coefficient?
    {text : String}
    {coefficient : Int}
    (read : coefficient? text = some coefficient) :
    coefficient.natAbs ≤ coefficientBound := by
  rw [coefficient?] at read
  split at read
  · cases read
    decide
  · rcases Option.bind_eq_some_iff.mp read with ⟨value, _, bounded⟩
    split at bounded
    · next within =>
      cases bounded
      exact within
    · cases bounded

theorem natAbs_le_of_termCoefficient
    {term symbol : String}
    {coefficient : Int}
    (counted :
      (vocabulary.termCoefficient term).value = some (symbol, coefficient)) :
    coefficient.natAbs ≤ coefficientBound := by
  rw [termCoefficient] at counted
  split at counted
  · cases counted
  · dsimp only at counted
    split at counted
    · next value read =>
      cases counted
      exact natAbs_le_of_coefficient? read
    · cases counted
      decide

/-- A term counts for the species that it names, within bounds, and for no other. -/
theorem natAbs_partialSum_singleton_le
    (species : String)
    {term : Int × String}
    (signed : term.1.natAbs = 1) :
    (vocabulary.partialSum species [term]).natAbs ≤
      vocabulary.namings species [term] * coefficientBound := by
  rw [partialSum_singleton, Int.natAbs_mul, signed, Nat.one_mul]
  have named := vocabulary.termCoefficient_fst term.2
  cases counted : (vocabulary.termCoefficient term.2).value with
  | none => simp [countedTerms, counted]
  | some entry =>
      rcases entry with ⟨symbol, coefficient⟩
      have bounded := vocabulary.natAbs_le_of_termCoefficient counted
      rw [counted, Option.map_some] at named
      by_cases same : symbol = species
      · simpa [countedTerms, counted, namings, ← named, same] using bounded
      · simp [countedTerms, counted, same]

theorem namings_append
    (species : String)
    (first second : List (Int × String)) :
    vocabulary.namings species (first ++ second) =
      vocabulary.namings species first + vocabulary.namings species second :=
  List.countP_append

/-- A partial sum is bounded by the terms that name its species. -/
theorem natAbs_partialSum_le
    (species : String)
    {terms : List (Int × String)}
    (signed : ∀ term ∈ terms, term.1.natAbs = 1) :
    (vocabulary.partialSum species terms).natAbs ≤
      vocabulary.namings species terms * coefficientBound := by
  induction terms with
  | nil => exact Nat.zero_le _
  | cons term terms induction =>
      rcases List.forall_mem_cons.mp signed with ⟨here, later⟩
      rw [← List.singleton_append, partialSum_append, namings_append,
        Nat.add_mul]
      exact
        (Int.natAbs_add_le _ _).trans
          (Nat.add_le_add
            (vocabulary.natAbs_partialSum_singleton_le species here)
            (induction later))

theorem namings_le_of_isPrefix
    (species : String)
    {before terms : List (Int × String)}
    (initial : before <+: terms) :
    vocabulary.namings species before ≤ vocabulary.namings species terms :=
  initial.sublist.countP_le

section Summing

variable
    (species : String)
    {reactants products : List String}
    {before : List (Int × String)}
    (initial : before <+: signedTerms reactants products)

include initial

theorem natAbs_partialSum_of_isPrefix_le :
    (vocabulary.partialSum species before).natAbs ≤
      vocabulary.namings species before * coefficientBound :=
  vocabulary.natAbs_partialSum_le species fun _ member =>
    natAbs_of_mem_signedTerms (initial.subset member)

/-- The partial sums of a species that is named once fit. -/
theorem isShort_partialSum_of_namings_le_one
    (once : vocabulary.namings species (signedTerms reactants products) ≤ 1) :
    IsShort (vocabulary.partialSum species before) := by
  have bounded :=
    vocabulary.natAbs_partialSum_of_isPrefix_le species initial
  have named := (vocabulary.namings_le_of_isPrefix species initial).trans once
  have single :
      vocabulary.namings species before * coefficientBound ≤
        1 * coefficientBound :=
    Nat.mul_le_mul_right _ named
  have boundEq : coefficientBound = 2147483647 := rfl
  rw [isShort_iff]
  omega

end Summing

/-! ## Coefficients that are not negative -/

variable {vocabulary}

/-- A species is given no negative coefficient by some terms. -/
def NonnegativeIn
    (vocabulary : Vocabulary)
    (species : String)
    (terms : List String) :
    Prop :=
  ∀ entry ∈ vocabulary.countedTerms terms, entry.1 = species → 0 ≤ entry.2

instance (species : String) (terms : List String) :
    Decidable (vocabulary.NonnegativeIn species terms) :=
  List.decidableBAll _ _

theorem nonnegativeIn_append_iff
    {species : String}
    {first second : List String} :
    vocabulary.NonnegativeIn species (first ++ second) ↔
      vocabulary.NonnegativeIn species first ∧
        vocabulary.NonnegativeIn species second := by
  rw [NonnegativeIn, countedTerms_append, List.forall_mem_append]
  rfl

theorem NonnegativeIn.amount_nonneg
    {species : String}
    {terms : List String}
    (nonnegative : vocabulary.NonnegativeIn species terms) :
    0 ≤ amount species (vocabulary.countedTerms terms) := by
  revert nonnegative
  rw [NonnegativeIn]
  induction vocabulary.countedTerms terms with
  | nil => exact fun _ => Int.le_refl 0
  | cons entry counted induction =>
      intro nonnegative
      rcases List.forall_mem_cons.mp nonnegative with ⟨here, later⟩
      rw [amount_cons]
      refine Int.add_nonneg ?_ (induction later)
      split
      · next same => exact here same
      · exact Int.le_refl 0

/-- Terms of one side amount to no more than the side. -/
theorem NonnegativeIn.partialSum_of_isPrefix
    {species : String}
    {terms : List String}
    (nonnegative : vocabulary.NonnegativeIn species terms)
    {sign : Int}
    {before : List (Int × String)}
    (initial : before <+: terms.map (sign, ·)) :
    ∃ counted : Int,
      vocabulary.partialSum species before = sign * counted ∧
        0 ≤ counted ∧ counted ≤ amount species (vocabulary.countedTerms terms) := by
  rcases initial with ⟨rest, split⟩
  rcases List.map_eq_append_iff.mp split.symm with
    ⟨first, second, rfl, rfl, rfl⟩
  rcases nonnegativeIn_append_iff.mp nonnegative with ⟨here, later⟩
  have laterNonneg := later.amount_nonneg
  refine ⟨_, partialSum_map species sign first, here.amount_nonneg, ?_⟩
  rw [countedTerms_append, amount_append]
  omega

/--
Without negative coefficients all partial sums fit when the reactants are not too many
and the products do not exceed them by too much.
-/
theorem forall_isShort_partialSum_iff
    {species : String}
    {equation : Equation}
    (nonnegative : vocabulary.NonnegativeIn species equation.allTerms) :
    (∀ before,
        before <+: signedTerms equation.reactants equation.products →
          IsShort (vocabulary.partialSum species before)) ↔
      leastShort ≤
          -amount species (vocabulary.countedTerms equation.reactants) ∧
        vocabulary.netCoefficient equation species ≤ greatestShort := by
  rcases nonnegativeIn_append_iff.mp nonnegative with ⟨consumed, produced⟩
  have consumedEq :
      vocabulary.partialSum species (equation.reactants.map (-1, ·)) =
        -amount species (vocabulary.countedTerms equation.reactants) := by
    rw [partialSum_map, Int.neg_one_mul]
  constructor
  · intro short
    constructor
    · rw [← consumedEq]
      exact (short _ (List.prefix_append _ _)).1
    · rw [← partialSum_signedTerms]
      exact (short _ List.prefix_rfl).2
  · rintro ⟨atLeast, atMost⟩ before initial
    rw [netCoefficient] at atMost
    have leastEq : leastShort = -2147483648 := rfl
    have greatestEq : greatestShort = 2147483647 := rfl
    rw [isShort_iff]
    rcases
      List.prefix_or_prefix_of_prefix initial (List.prefix_append _ _) with
      within | ⟨later, rfl⟩
    · -- Along the reactants the sums descend from zero.
      rcases consumed.partialSum_of_isPrefix within with
        ⟨counted, sumEq, countedNonneg, countedLe⟩
      rw [sumEq]
      omega
    · -- Along the products they ascend to the net coefficient.
      have within : later <+: equation.products.map (1, ·) :=
        (List.prefix_append_right_inj _).mp initial
      rcases produced.partialSum_of_isPrefix within with
        ⟨counted, sumEq, countedNonneg, countedLe⟩
      have consumedNonneg := consumed.amount_nonneg
      rw [partialSum_append, consumedEq, sumEq]
      omega

end Vocabulary

variable {α : Type} [Quantity α]

/-- The sums of the terms of a line that is a reaction. -/
structure SumsOfTerms
    (vocabulary : Vocabulary)
    (line : String)
    (ordinal : Nat)
    (compiled : Noted (Descriptor α))
    (terms : List (Int × String)) :
    Prop where
  /-- The stoichiometry is what the totals have come to after all terms. -/
  stoichiometry_eq :
    compiled.value.stoichiometry =
      some
        ((vocabulary.runningTotals compiled.value.name compiled.value.species
            terms).map
          Prod.snd)
  /-- After any of the terms the totals are the partial sums. -/
  totals_eq :
    ∀ before,
      before <+: terms →
        vocabulary.runningTotals compiled.value.name compiled.value.species
            before =
          compiled.value.species.map fun species =>
            (species, vocabulary.partialSum species before)
  /-- In the end they are the net coefficients. -/
  net_eq :
    ∀ species,
      vocabulary.partialSum species terms =
        vocabulary.netCoefficient compiled.value.equation species
  /-- In 32 bits the line is compiled when all partial sums of its species fit. -/
  checks :
    Checks (vocabulary.compile? line ordinal)
      (∀ species ∈ compiled.value.species, ∀ before,
        before <+: terms → IsShort (vocabulary.partialSum species before))
      (.ok compiled)
  /-- A partial sum is bounded by the terms that name its species. -/
  natAbs_le :
    ∀ species before,
      before <+: terms →
        (vocabulary.partialSum species before).natAbs ≤
          vocabulary.namings species before * Vocabulary.coefficientBound
  /-- So the sums of a species that one term names fit. -/
  isShort_of_namings_le_one :
    ∀ species,
      vocabulary.namings species terms ≤ 1 →
        ∀ before,
          before <+: terms → IsShort (vocabulary.partialSum species before)
  /-- Without negative coefficients the sums of two places decide. -/
  isShort_iff_of_nonnegative :
    ∀ species,
      vocabulary.NonnegativeIn species compiled.value.equation.allTerms →
        ((∀ before,
            before <+: terms →
              IsShort (vocabulary.partialSum species before)) ↔
          leastShort ≤
              -amount species
                (vocabulary.countedTerms compiled.value.reactants) ∧
            vocabulary.netCoefficient compiled.value.equation species ≤
              greatestShort)

/--
Let a line be a reaction.  Its stoichiometry is what the totals of its species come to
when all terms have been added, the reactants first; after any of the terms they are the
exact sums so far, and in the end the net coefficients.  The totals are kept in 32 bits,
and the line is compiled there exactly when all the sums fit.  A sum so far is bounded
by the greatest coefficient times the terms that name the species, so it fits while one
term does.  When the coefficients of a species are not negative, all its sums fit
exactly when those after the reactants and after the products do.
-/
theorem partial_sums_bounded_by_namings
    {vocabulary : Vocabulary}
    {line : String}
    {ordinal : Nat}
    {compiled : Noted (Descriptor α)}
    (compiles : vocabulary.compile line ordinal = .ok compiled)
    (reaction : compiled.value.category = .reaction) :
    SumsOfTerms vocabulary line ordinal compiled
      (signedTerms compiled.value.reactants compiled.value.products) where
  stoichiometry_eq := vocabulary.stoichiometry_of_compile compiles reaction
  totals_eq := fun before _ => vocabulary.runningTotals_eq _ _ before
  net_eq := fun species =>
    Vocabulary.partialSum_signedTerms species compiled.value.equation
  checks := by
    have checks := vocabulary.checks_compile (α := α) line ordinal
    rw [compiles] at checks
    exact checks.congr (vocabulary.lineFits_iff_of_reaction compiles reaction)
  natAbs_le := fun species _ initial =>
    vocabulary.natAbs_partialSum_of_isPrefix_le species initial
  isShort_of_namings_le_one := fun species once _ initial =>
    vocabulary.isShort_partialSum_of_namings_le_one species initial once
  isShort_iff_of_nonnegative := fun _ => Vocabulary.forall_isShort_partialSum_iff

/-- The terms and species of a line that is compiled as a reaction. -/
def reactionTerms?
    (vocabulary : Vocabulary)
    (line : String) :
    Option (List String × List String × List String) :=
  (vocabulary.compile (α := Float) line 0).toOption.bind fun compiled =>
    if compiled.value.category = .reaction then
      some
        (compiled.value.reactants, compiled.value.products,
          compiled.value.species)
    else
      none

theorem exists_of_reactionTerms?
    {vocabulary : Vocabulary}
    {line : String}
    {reactants products species : List String}
    (found : reactionTerms? vocabulary line = some (reactants, products, species)) :
    ∃ compiled,
      vocabulary.compile (α := Float) line 0 = .ok compiled ∧
        compiled.value.category = .reaction ∧
          compiled.value.reactants = reactants ∧
            compiled.value.products = products ∧
              compiled.value.species = species := by
  rcases Option.bind_eq_some_iff.mp found with ⟨compiled, compiles, termsEq⟩
  split at termsEq
  · next reaction =>
    cases termsEq
    refine ⟨compiled, ?_, reaction, rfl, rfl, rfl⟩
    cases outcome : vocabulary.compile (α := Float) line 0 with
    | error error =>
        rw [outcome] at compiles
        cases compiles
    | ok other =>
        rw [outcome] at compiles
        cases compiles
        rfl
  · cases termsEq

theorem partial_sums_bounded_by_namings_catalysis :
    ∃ compiled,
      Vocabulary.compile (α := Float) { symbols := ["A", "B"] }
          "3A + 2A -> 4A + B, 1.0" 0 =
        .ok compiled ∧
        compiled.value.category = .reaction ∧
          Vocabulary.NonnegativeIn { symbols := ["A", "B"] } "A"
              (compiled.value.reactants ++ compiled.value.products) ∧
            compiled.value.stoichiometry = some [-1, 1] ∧
              ∀ before,
                before <+:
                    signedTerms compiled.value.reactants
                      compiled.value.products →
                  IsShort
                    (Vocabulary.partialSum { symbols := ["A", "B"] } "A"
                      before) := by
  have found :
      reactionTerms? { symbols := ["A", "B"] } "3A + 2A -> 4A + B, 1.0" =
        some (["3A", "2A"], ["4A", "B"], ["A", "B"]) := by
    decide +kernel
  rcases exists_of_reactionTerms? found with
    ⟨compiled, compiles, reaction, reactantsEq, productsEq, speciesEq⟩
  have sums := partial_sums_bounded_by_namings compiles reaction
  have nonnegative :
      Vocabulary.NonnegativeIn { symbols := ["A", "B"] } "A"
        (compiled.value.reactants ++ compiled.value.products) := by
    rw [reactantsEq, productsEq]
    decide +kernel
  refine ⟨compiled, compiles, reaction, nonnegative, ?_, ?_⟩
  · rw [sums.stoichiometry_eq, sums.totals_eq _ List.prefix_rfl, reactantsEq,
      productsEq, speciesEq]
    decide +kernel
  · refine (sums.isShort_iff_of_nonnegative "A" nonnegative).mpr ?_
    rw [Descriptor.equation, reactantsEq, productsEq]
    decide +kernel

/-- A line whose two reactants are one species with the greatest coefficient. -/
def heavyLine : String :=
  "2147483647A + 2147483647A -> 2147483647A + 2147483647A, 1.0"

/-- Two terms of the greatest coefficient are more than fits. -/
theorem greatest_coefficients_exceed :
    ∃ compiled,
      Vocabulary.compile (α := Float) { symbols := ["A"] } heavyLine 0 =
        .ok compiled ∧
        compiled.value.category = .reaction ∧
          (∃ before,
            before <+:
                signedTerms compiled.value.reactants compiled.value.products ∧
              Vocabulary.runningTotals { symbols := ["A"] } compiled.value.name
                  compiled.value.species before =
                [("A", -4294967294)] ∧
                ¬ IsShort (-4294967294)) ∧
            Vocabulary.compile? (α := Float) { symbols := ["A"] } heavyLine 0 =
              none := by
  let vocabulary : Vocabulary := { symbols := ["A"] }
  have found :
      reactionTerms? vocabulary heavyLine =
        some
          (["2147483647A", "2147483647A"], ["2147483647A", "2147483647A"],
            ["A"]) := by
    decide +kernel
  rcases exists_of_reactionTerms? found with
    ⟨compiled, compiles, reaction, reactantsEq, productsEq, speciesEq⟩
  let before : List (Int × String) := [(-1, "2147483647A"), (-1, "2147483647A")]
  have initial :
      before <+: signedTerms compiled.value.reactants compiled.value.products := by
    rw [reactantsEq, productsEq]
    exact List.prefix_append _ _
  have sumEq : vocabulary.partialSum "A" before = -4294967294 := by decide +kernel
  refine ⟨compiled, compiles, reaction, ⟨before, initial, ?_, by decide⟩, ?_⟩
  · rw [Vocabulary.runningTotals_eq, speciesEq, List.map_singleton, sumEq]
  · refine (vocabulary.checks_compile heavyLine 0).eq_none_iff.mpr fun fits => ?_
    have short :=
      (vocabulary.lineFits_iff_of_reaction compiles reaction).mp fits "A"
        (by rw [speciesEq]; exact List.mem_singleton_self _) before initial
    rw [sumEq] at short
    exact absurd short (by decide)

end SurfaceKinetics
