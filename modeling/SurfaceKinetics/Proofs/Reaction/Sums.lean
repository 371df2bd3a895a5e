import Mathlib.Data.List.Induction
import SurfaceKinetics.Proofs.Checks
import SurfaceKinetics.Proofs.Reaction.Participation

/-!
# Sums of terms

The stoichiometry of a reaction is summed term by term, the reactants before the
products.  After any of the terms the total of a species is the partial sum of what the
terms so far count of it, and in the end it is the net coefficient.  The totals are kept
in 32 bits.  A line is compiled there exactly when every partial sum of every species
fits, and the exact totals are computed.
-/

namespace SurfaceKinetics

theorem Noted.value_foldlM
    {β γ : Type}
    (step : β → γ → Noted β)
    (start : β)
    (items : List γ) :
    (items.foldlM step start).value =
      items.foldl (fun state item => (step state item).value) start := by
  induction items generalizing start with
  | nil => rfl
  | cons item items induction =>
      rw [List.foldlM_cons, value_bind, induction, List.foldl_cons]

/-- The terms of an equation in the order of summation, each with its sign. -/
def signedTerms (reactants products : List String) : List (Int × String) :=
  reactants.map (-1, ·) ++ products.map (1, ·)

theorem natAbs_of_mem_signedTerms
    {reactants products : List String}
    {term : Int × String}
    (member : term ∈ signedTerms reactants products) :
    term.1.natAbs = 1 := by
  rcases List.mem_append.mp member with consumed | produced
  · rcases List.mem_map.mp consumed with ⟨_, _, rfl⟩
    rfl
  · rcases List.mem_map.mp produced with ⟨_, _, rfl⟩
    rfl

namespace Vocabulary

/-- The totals of species after some terms. -/
def runningTotals
    (vocabulary : Vocabulary)
    (name : String)
    (species : List String)
    (terms : List (Int × String)) :
    List (String × Int) :=
  terms.foldl
    (fun totals term => (vocabulary.addTerm name term.1 totals term.2).value)
    (species.map (·, 0))

/-- What terms with signs count of a species. -/
def partialSum
    (vocabulary : Vocabulary)
    (species : String)
    (terms : List (Int × String)) :
    Int :=
  netTotal <|
    terms.map fun term =>
      term.1 * amount species (vocabulary.countedTerms [term.2])

variable (vocabulary : Vocabulary)

theorem partialSum_append
    (species : String)
    (first second : List (Int × String)) :
    vocabulary.partialSum species (first ++ second) =
      vocabulary.partialSum species first +
        vocabulary.partialSum species second := by
  rw [partialSum, List.map_append, netTotal_append, partialSum, partialSum]

theorem partialSum_singleton (species : String) (term : Int × String) :
    vocabulary.partialSum species [term] =
      term.1 * amount species (vocabulary.countedTerms [term.2]) := by
  rw [partialSum, List.map_singleton, netTotal_cons, netTotal_nil, Int.add_zero]

/-! ## Running totals -/

/-- The next term changes the totals by what it counts. -/
theorem runningTotals_concat
    (name : String)
    (species : List String)
    (terms : List (Int × String))
    (term : Int × String) :
    vocabulary.runningTotals name species (terms ++ [term]) =
      (vocabulary.addTerm name term.1
          (vocabulary.runningTotals name species terms) term.2).value := by
  rw [runningTotals, List.foldl_concat, runningTotals]

theorem runningTotals_eq
    (name : String)
    (species : List String)
    (terms : List (Int × String)) :
    vocabulary.runningTotals name species terms =
      species.map fun symbol => (symbol, vocabulary.partialSum symbol terms) := by
  induction terms using List.reverseRecOn with
  | nil => rfl
  | append_singleton terms term induction =>
      rw [runningTotals_concat, induction, value_addTerm, List.map_map]
      refine List.map_congr_left fun symbol _ => ?_
      rw [Function.comp_apply, partialSum_append, partialSum_singleton]

/-- A stoichiometry is what the totals have come to after all terms. -/
theorem value_stoichiometry_eq_runningTotals
    (name : String)
    (equation : Equation)
    (species : List String) :
    (vocabulary.stoichiometry name equation species).value =
      (vocabulary.runningTotals name species
          (signedTerms equation.reactants equation.products)).map
        Prod.snd := by
  rw [runningTotals, signedTerms, List.foldl_append, List.foldl_map,
    List.foldl_map, stoichiometry, Noted.value_bind, Noted.value_bind,
    Noted.value_foldlM, Noted.value_foldlM, Noted.value_pure]

/-- The stoichiometry of a compiled reaction has been summed over its terms. -/
theorem stoichiometry_of_compile
    {α : Type}
    [Quantity α]
    {line : String}
    {ordinal : Nat}
    {compiled : Noted (Descriptor α)}
    (compiles : vocabulary.compile line ordinal = .ok compiled)
    (reaction : compiled.value.category = .reaction) :
    compiled.value.stoichiometry =
      some
        ((vocabulary.runningTotals compiled.value.name compiled.value.species
            (signedTerms compiled.value.reactants compiled.value.products)).map
          Prod.snd) := by
  rcases vocabulary.exists_describe_of_compile compiles with
    ⟨text, equation, energetics, rfl⟩
  rw [value_describe] at reaction ⊢
  have summed :=
    vocabulary.value_stoichiometry_eq_runningTotals
      ((vocabulary.classify equation).name ++ toString ordinal) equation
      (vocabulary.participants equation)
  rw [value_stoichiometry] at summed
  exact (if_pos reaction).trans (congrArg some summed)

/-! ## Sums of 32 bits -/

/-- All partial sums of a stoichiometry fit into 32 bits with sign. -/
def SumsFit
    (equation : Equation)
    (species : List String) :
    Prop :=
  ∀ symbol ∈ species, ∀ before,
    before <+: signedTerms equation.reactants equation.products →
      IsShort (vocabulary.partialSum symbol before)

theorem checks_addTo
    (symbol : String)
    (amount : Int)
    (totals : List (String × Int)) :
    Checks (addTo? symbol amount totals)
      (∀ total ∈ totals, total.1 = symbol → IsShort (total.2 + amount))
      (addTo symbol amount totals) := by
  refine Checks.mapM fun total _ => ?_
  split
  · next same => exact ((Checks.short _).map _).congr (by simp [same])
  · next other => exact (Checks.some total).congr (by simp [other])

/-- From totals that fit, a term can be added when all totals fit afterwards. -/
theorem checks_addTerm
    (name : String)
    (sign : Int)
    {totals : List (String × Int)}
    (short : ∀ total ∈ totals, IsShort total.2)
    (term : String) :
    Checks (vocabulary.addTerm? sign totals term)
      (∀ total ∈ (vocabulary.addTerm name sign totals term).value,
        IsShort total.2)
      (vocabulary.addTerm name sign totals term).value := by
  rw [addTerm?]
  cases counted : (vocabulary.termCoefficient term).value with
  | none =>
      rw [value_addTerm_of_uncounted _ _ _ _ counted]
      exact (Checks.some totals).congr (iff_of_true trivial short)
  | some entry =>
      rw [value_addTerm_of_counted _ _ _ _ counted]
      refine (checks_addTo entry.1 (sign * entry.2) totals).congr ?_
      rw [addTo, List.forall_mem_map]
      refine forall₂_congr fun total member => ?_
      split
      · next same => simp [same]
      · next other => simp [other, short total member]

/-- The totals after some terms fit when those after all terms before them do. -/
theorem checks_runningTotals
    (name : String)
    (species : List String)
    (terms : List (Int × String)) :
    Checks
      (terms.foldlM
        (fun totals term => vocabulary.addTerm? term.1 totals term.2)
        (species.map (·, 0)))
      (∀ before,
        before <+: terms →
          ∀ total ∈ vocabulary.runningTotals name species before,
            IsShort total.2)
      (vocabulary.runningTotals name species terms) := by
  induction terms using List.reverseRecOn with
  | nil =>
      refine (Checks.some _).congr (iff_of_true trivial fun before initial => ?_)
      rw [List.prefix_nil.mp initial, runningTotals, List.foldl_nil,
        List.forall_mem_map]
      exact fun _ _ => (by decide : IsShort 0)
  | append_singleton terms term induction =>
      simp only [List.foldlM_append, List.foldlM_cons, List.foldlM_nil, bind_pure,
        runningTotals_concat]
      refine
        Checks.congr
          (Checks.bind induction fun fits =>
            vocabulary.checks_addTerm name term.1 (fits terms List.prefix_rfl)
              term.2) ?_
      simp only [List.prefix_concat_iff, or_imp, forall_and, forall_eq,
        runningTotals_concat]
      exact and_comm

theorem stoichiometryShort?_eq_map
    (equation : Equation)
    (species : List String) :
    vocabulary.stoichiometryShort? equation species =
      ((signedTerms equation.reactants equation.products).foldlM
        (fun totals term => vocabulary.addTerm? term.1 totals term.2)
        (species.map (·, 0))).map (List.map Prod.snd) := by
  simp only [stoichiometryShort?, signedTerms, List.foldlM_append, List.foldlM_map,
    Option.bind_eq_bind, Option.map_bind]
  refine Option.bind_congr fun totals _ => ?_
  exact (Option.map_eq_bind ..).symm

/-- A stoichiometry is summed in 32 bits when all its partial sums fit. -/
theorem checks_stoichiometry
    (name : String)
    (equation : Equation)
    (species : List String) :
    Checks (vocabulary.stoichiometryShort? equation species)
      (vocabulary.SumsFit equation species)
      (vocabulary.stoichiometry name equation species).value := by
  have summed :=
    (vocabulary.checks_runningTotals name species
      (signedTerms equation.reactants equation.products)).map (List.map Prod.snd)
  rw [stoichiometryShort?_eq_map, value_stoichiometry_eq_runningTotals]
  refine summed.congr ?_
  simp only [runningTotals_eq, List.forall_mem_map, SumsFit]
  constructor
  · exact fun short symbol member before initial => short before initial symbol member
  · exact fun short before initial symbol member => short symbol member before initial

variable {α : Type} [Quantity α]

/-- The sums of a line fit if it is compiled as a reaction. -/
def LineFits
    (α : Type)
    [Quantity α]
    (line : String)
    (ordinal : Nat) :
    Prop :=
  ∀ compiled : Noted (Descriptor α),
    vocabulary.compile line ordinal = .ok compiled →
      compiled.value.category = .reaction →
        vocabulary.SumsFit compiled.value.equation compiled.value.species

theorem lineFits_iff_of_reaction
    {line : String}
    {ordinal : Nat}
    {compiled : Noted (Descriptor α)}
    (compiles : vocabulary.compile line ordinal = .ok compiled)
    (reaction : compiled.value.category = .reaction) :
    vocabulary.LineFits α line ordinal ↔
      vocabulary.SumsFit compiled.value.equation compiled.value.species := by
  rw [LineFits, compiles]
  constructor
  · exact fun fits => fits compiled rfl reaction
  · rintro fits _ ⟨⟩ _
    exact fits

/-- A line is compiled in 32 bits when the sums of its stoichiometry fit. -/
theorem checks_compile (line : String) (ordinal : Nat) :
    Checks (vocabulary.compile? line ordinal) (vocabulary.LineFits α line ordinal)
      (vocabulary.compile (α := α) line ordinal) := by
  rw [compile?, LineFits]
  cases vocabulary.compile (α := α) line ordinal with
  | error error => exact (Checks.some _).congr (iff_of_true trivial nofun)
  | ok compiled =>
      dsimp only
      split
      · next reaction =>
        refine
          ((vocabulary.checks_stoichiometry "" _ compiled.value.species).map
            fun _ => Except.ok compiled).congr ?_
        simp [reaction]
      · next other => exact (Checks.some _).congr (by simp [other])

/-- Only the sums of reactions could keep a line from being compiled in 32 bits. -/
theorem compile?_of_not_reaction
    {line : String}
    {ordinal : Nat}
    {compiled : Noted (Descriptor α)}
    (compiles : vocabulary.compile line ordinal = .ok compiled)
    (other : compiled.value.category ≠ .reaction) :
    vocabulary.compile? line ordinal = some (.ok compiled) := by
  rw [compile?, compiles]
  exact if_neg other

/-- A line is compiled in 32 bits when its stoichiometry has been summed there. -/
theorem compile?_of_summed
    {vocabulary : Vocabulary}
    {line : String}
    {ordinal : Nat}
    {compiled : Noted (Descriptor α)}
    (compiles : vocabulary.compile line ordinal = .ok compiled)
    (summed :
      (vocabulary.stoichiometryShort? compiled.value.equation
          compiled.value.species).isSome =
        true) :
    vocabulary.compile? line ordinal = some (.ok compiled) := by
  rcases Option.isSome_iff_exists.mp summed with ⟨coefficients, summed⟩
  rw [compile?, compiles]
  dsimp only
  rw [summed]
  exact ite_self _

/-! ## The two sides -/

variable {vocabulary}

theorem partialSum_map
    (species : String)
    (sign : Int)
    (terms : List String) :
    vocabulary.partialSum species (terms.map (sign, ·)) =
      sign * amount species (vocabulary.countedTerms terms) := by
  induction terms with
  | nil => exact (Int.mul_zero sign).symm
  | cons term terms induction =>
      rw [List.map_cons, ← List.singleton_append, partialSum_append,
        partialSum_singleton, induction,
        vocabulary.countedTerms_cons term terms, amount_append, Int.mul_add]

/-- All terms together amount to the net coefficient. -/
theorem partialSum_signedTerms
    (species : String)
    (equation : Equation) :
    vocabulary.partialSum species
        (signedTerms equation.reactants equation.products) =
      vocabulary.netCoefficient equation species := by
  rw [signedTerms, partialSum_append, partialSum_map, partialSum_map,
    netCoefficient]
  omega

end Vocabulary

end SurfaceKinetics
