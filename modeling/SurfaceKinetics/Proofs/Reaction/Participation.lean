import Mathlib.Data.Finset.Max
import Mathlib.Data.Prod.Lex
import SurfaceKinetics.Proofs.Input.Filling
import SurfaceKinetics.Proofs.Quantity.Exact
import SurfaceKinetics.Proofs.Reaction.Splitting
import SurfaceKinetics.Proofs.Text.ByteOrder

/-!
# Species that take part

A species takes part in an equation when its symbol occurs in a term.  A term is counted
for the longest declared symbol in it, the first one of several of the same length, and
this symbol takes part, since it occurs in the term.  So every term that is counted has a
place in the stoichiometry, and all that counting reports is coefficients that cannot be
read.
-/

namespace SurfaceKinetics

namespace Noted

variable {β γ : Type}

theorem notes_bind (first : Noted β) (next : β → Noted γ) :
    (first >>= next).notes = first.notes ++ (next first.value).notes :=
  rfl

theorem notes_map (function : β → γ) (first : Noted β) :
    (function <$> first).notes = first.notes :=
  Array.append_empty

end Noted

theorem occursIn_iff_isInfix {pattern text : String} :
    occursIn pattern text = true ↔ pattern.toList <:+: text.toList :=
  occurs_iff_isInfix

/-! ## The longest symbol -/

/--
A symbol is the longest declared one in a term, and the first of those of its length.
-/
def IsLongest (symbols : List String) (term symbol : String) : Prop :=
  ∀ other ∈ symbols,
    occursIn other term = true →
      other.utf8ByteSize < symbol.utf8ByteSize ∨
        (other.utf8ByteSize = symbol.utf8ByteSize ∧ symbol ≤ other)

/-- Of the symbols in a term one is the longest and the first of its length. -/
theorem exists_isLongest
    {symbols : List String}
    {term symbol : String}
    (declared : symbol ∈ symbols)
    (present : occursIn symbol term = true) :
    ∃ longest ∈ symbols,
      occursIn longest term = true ∧ IsLongest symbols term longest := by
  -- Longer symbols come first, and symbols of one length in their own order.
  let rank := fun other : String =>
    toLex (OrderDual.toDual other.utf8ByteSize, other)
  let candidates := (symbols.filter fun other => occursIn other term).toFinset
  have mem_candidates :
      ∀ other, other ∈ candidates ↔ other ∈ symbols ∧ occursIn other term = true := by
    intro other
    rw [List.mem_toFinset, List.mem_filter]
  rcases Finset.exists_min_image candidates rank
      ⟨symbol, (mem_candidates symbol).mpr ⟨declared, present⟩⟩ with
    ⟨longest, member, least⟩
  rw [mem_candidates] at member
  refine ⟨longest, member.1, member.2, fun other listed occurring => ?_⟩
  have ranked := least other ((mem_candidates other).mpr ⟨listed, occurring⟩)
  rw [Prod.Lex.toLex_le_toLex] at ranked
  exact ranked.imp id (And.imp_left Eq.symm)

namespace Vocabulary

/-- The best symbol stays when none is longer. -/
theorem foldl_longer_some
    {best : String}
    {symbols : List String}
    (bounded : ∀ symbol ∈ symbols, symbol.utf8ByteSize ≤ best.utf8ByteSize) :
    symbols.foldl longer (some best) = some best := by
  induction symbols with
  | nil => rfl
  | cons symbol symbols induction =>
      rw [List.forall_mem_cons] at bounded
      rw [List.foldl_cons, longer, if_pos bounded.1]
      exact induction bounded.2

/-- The best symbol is one of those that were compared. -/
theorem mem_of_foldl_longer
    {start : Option String}
    {symbols : List String}
    {best : String}
    (found : symbols.foldl longer start = some best) :
    start = some best ∨ best ∈ symbols := by
  induction symbols generalizing start with
  | nil => exact Or.inl found
  | cons symbol symbols induction =>
      rcases induction found with chosen | later
      · rw [longer.eq_def] at chosen
        split at chosen
        · exact Or.inr (Option.some.inj chosen ▸ List.mem_cons_self)
        · split at chosen
          · exact Or.inl chosen
          · exact Or.inr (Option.some.inj chosen ▸ List.mem_cons_self)
      · exact Or.inr (List.mem_cons_of_mem symbol later)

/-- A symbol that is longer than those before it and not shorter than those after it. -/
theorem foldl_longer_append_cons
    {symbol : String}
    {before after : List String}
    (longerBefore : ∀ other ∈ before, other.utf8ByteSize < symbol.utf8ByteSize)
    (boundedAfter : ∀ other ∈ after, other.utf8ByteSize ≤ symbol.utf8ByteSize) :
    (before ++ symbol :: after).foldl longer none = some symbol := by
  have chosen : longer (before.foldl longer none) symbol = some symbol := by
    cases bestEq : before.foldl longer none with
    | none => rfl
    | some best =>
        have member : best ∈ before :=
          (mem_of_foldl_longer bestEq).resolve_left nofun
        rw [longer, if_neg (Nat.not_le.mpr (longerBefore best member))]
  rw [List.foldl_append, List.foldl_cons, chosen, foldl_longer_some boundedAfter]

/-- Among symbols in their order the longest one in a term is found. -/
theorem longestMatch?_eq_some
    {vocabulary : Vocabulary}
    {term symbol : String}
    (sorted : vocabulary.symbols.Pairwise (· < ·))
    (declared : symbol ∈ vocabulary.symbols)
    (present : occursIn symbol term = true)
    (longest : IsLongest vocabulary.symbols term symbol) :
    vocabulary.longestMatch? term = some symbol := by
  rcases List.append_of_mem declared with ⟨before, after, symbolsEq⟩
  rw [IsLongest, symbolsEq] at longest
  rw [symbolsEq, List.pairwise_append] at sorted
  rw [longestMatch?, symbolsEq, List.filter_append, List.filter_cons,
    if_pos present]
  apply foldl_longer_append_cons
  · intro other member
    rcases List.mem_filter.mp member with ⟨isBefore, occurring⟩
    have less : other < symbol := sorted.2.2 other isBefore symbol List.mem_cons_self
    exact
      (longest other (List.mem_append_left _ isBefore) occurring).resolve_right
        fun same => absurd same.2 (not_le.mpr less)
  · intro other member
    rcases List.mem_filter.mp member with ⟨isAfter, occurring⟩
    have listed : other ∈ before ++ symbol :: after :=
      List.mem_append_right _ (List.mem_cons_of_mem _ isAfter)
    rcases longest other listed occurring with less | same
    · exact less.le
    · exact same.1.le

/-- The species of a term is declared and stands in it. -/
theorem mem_of_longestMatch?
    {vocabulary : Vocabulary}
    {term symbol : String}
    (found : vocabulary.longestMatch? term = some symbol) :
    symbol ∈ vocabulary.symbols ∧ occursIn symbol term = true :=
  List.mem_filter.mp ((mem_of_foldl_longer found).resolve_left nofun)

/-- The species of a term is the longest declared symbol in it. -/
theorem longestMatch?_eq_some_iff
    {vocabulary : Vocabulary}
    (sorted : vocabulary.symbols.Pairwise (· < ·))
    {term symbol : String} :
    vocabulary.longestMatch? term = some symbol ↔
      symbol ∈ vocabulary.symbols ∧
        occursIn symbol term = true ∧ IsLongest vocabulary.symbols term symbol := by
  constructor
  · intro found
    rcases mem_of_longestMatch? found with ⟨declared, present⟩
    rcases exists_isLongest declared present with
      ⟨longest, listed, occurring, isLongest⟩
    have same := longestMatch?_eq_some sorted listed occurring isLongest
    rw [found, Option.some.injEq] at same
    subst same
    exact ⟨listed, occurring, isLongest⟩
  · rintro ⟨declared, present, longest⟩
    exact longestMatch?_eq_some sorted declared present longest

/-- Once there is a best symbol there is one to the end. -/
theorem isSome_foldl_longer (best : String) (symbols : List String) :
    (symbols.foldl longer (some best)).isSome = true := by
  induction symbols generalizing best with
  | nil => rfl
  | cons symbol symbols induction =>
      rw [List.foldl_cons, longer]
      split_ifs
      · exact induction best
      · exact induction symbol

/-- A term has no species when no declared symbol is in it. -/
theorem longestMatch?_eq_none_iff {vocabulary : Vocabulary} {term : String} :
    vocabulary.longestMatch? term = none ↔
      ∀ symbol ∈ vocabulary.symbols, ¬ occursIn symbol term = true := by
  rw [← List.filter_eq_nil_iff, longestMatch?]
  cases vocabulary.symbols.filter fun symbol => occursIn symbol term with
  | nil => exact iff_of_true rfl rfl
  | cons symbol others =>
      refine iff_of_false (fun none => ?_) (List.cons_ne_nil _ _)
      have found := isSome_foldl_longer symbol others
      rw [List.foldl_cons, longer] at none
      rw [none] at found
      cases found

/-! ## Participants -/

variable (vocabulary : Vocabulary)

theorem mem_participants_iff {equation : Equation} {symbol : String} :
    symbol ∈ vocabulary.participants equation ↔
      symbol ∈ vocabulary.symbols ∧
        ∃ term ∈ equation.allTerms, occursIn symbol term = true := by
  rw [participants, List.mem_filter, List.any_eq_true]

/-- The species of a term takes part in the equation. -/
theorem mem_participants_of_longestMatch?
    {equation : Equation}
    {term symbol : String}
    (member : term ∈ equation.allTerms)
    (found : vocabulary.longestMatch? term = some symbol) :
    symbol ∈ vocabulary.participants equation := by
  rcases mem_of_longestMatch? found with ⟨declared, present⟩
  exact (vocabulary.mem_participants_iff).mpr ⟨declared, term, member, present⟩

/-! ## What counting reports -/

/-- What is reported of the coefficients of terms. -/
def coefficientNotes (terms : List String) : List Note :=
  terms.flatMap fun term => (vocabulary.termCoefficient term).notes.toList

theorem map_fst_addTerm
    (name : String)
    (sign : Int)
    (totals : List (String × Int))
    (terms : List String) :
    (terms.foldlM (vocabulary.addTerm name sign) totals).value.map Prod.fst =
      totals.map Prod.fst := by
  rw [value_foldlM_addTerm, List.map_map]
  rfl

/-- A term whose species is tracked reports its coefficient and nothing else. -/
theorem notes_addTerm
    (name : String)
    (sign : Int)
    {totals : List (String × Int)}
    {term : String}
    (tracked :
      ∀ symbol,
        vocabulary.longestMatch? term = some symbol → symbol ∈ totals.map Prod.fst) :
    (vocabulary.addTerm name sign totals term).notes =
      (vocabulary.termCoefficient term).notes := by
  rw [addTerm, Noted.notes_bind]
  cases counted : (vocabulary.termCoefficient term).value with
  | none => exact Array.append_empty
  | some entry =>
      have species := vocabulary.termCoefficient_fst term
      rw [counted, Option.map_some, eq_comm] at species
      rcases List.mem_map.mp (tracked entry.1 species) with ⟨total, member, same⟩
      have present : (totals.any fun total => total.1 = entry.1) = true :=
        List.any_eq_true.mpr ⟨total, member, decide_eq_true same⟩
      dsimp only
      rw [if_pos present]
      exact Array.append_empty

theorem notes_foldlM_addTerm
    (name : String)
    (sign : Int)
    {totals : List (String × Int)}
    {terms : List String}
    (tracked :
      ∀ term ∈ terms, ∀ symbol,
        vocabulary.longestMatch? term = some symbol → symbol ∈ totals.map Prod.fst) :
    (terms.foldlM (vocabulary.addTerm name sign) totals).notes.toList =
      vocabulary.coefficientNotes terms := by
  induction terms generalizing totals with
  | nil => rfl
  | cons term terms induction =>
      rw [List.forall_mem_cons] at tracked
      have others :
          ∀ other ∈ terms, ∀ symbol,
            vocabulary.longestMatch? other = some symbol →
              symbol ∈
                (vocabulary.addTerm name sign totals term).value.map Prod.fst := by
        intro other member symbol found
        rw [value_addTerm, List.map_map]
        exact tracked.2 other member symbol found
      rw [List.foldlM_cons, Noted.notes_bind, Array.toList_append, induction others,
        notes_addTerm _ _ _ tracked.1, coefficientNotes, coefficientNotes,
        List.flatMap_cons]

/-- Counting an equation reports the coefficients of its terms, reactants first. -/
theorem notes_stoichiometry (name : String) (equation : Equation) :
    (vocabulary.stoichiometry name equation
        (vocabulary.participants equation)).notes.toList =
      vocabulary.coefficientNotes equation.allTerms := by
  let start := (vocabulary.participants equation).map fun symbol => (symbol, (0 : Int))
  have startFst : start.map Prod.fst = vocabulary.participants equation := by
    rw [List.map_map]
    exact List.map_id _
  have tracked :
      ∀ totals : List (String × Int),
        totals.map Prod.fst = vocabulary.participants equation →
          ∀ term ∈ equation.allTerms, ∀ symbol,
            vocabulary.longestMatch? term = some symbol →
              symbol ∈ totals.map Prod.fst := by
    intro totals totalsFst term member symbol found
    rw [totalsFst]
    exact vocabulary.mem_participants_of_longestMatch? member found
  have afterFst :=
    (vocabulary.map_fst_addTerm name (-1) start equation.reactants).trans startFst
  rw [stoichiometry, Noted.notes_bind, Noted.notes_bind, Array.toList_append,
    Array.toList_append,
    notes_foldlM_addTerm _ _ _ fun term member =>
      tracked start startFst term (List.mem_append_left _ member),
    notes_foldlM_addTerm _ _ _ fun term member =>
      tracked _ afterFst term (List.mem_append_right _ member)]
  rw [coefficientNotes, coefficientNotes, coefficientNotes, Equation.allTerms,
    List.flatMap_append]
  exact congrArg _ (List.append_nil _)

variable {α : Type} [Quantity α]

/-- What is reported of every descriptor. -/
def summary
    (text : String)
    (equation : Equation)
    (energetics : Energetics α)
    (ordinal : Nat) :
    String :=
  s!"{(vocabulary.classify equation).name ++ toString ordinal}: '{text}' species " ++
    Quoted.encodeList (vocabulary.participants equation) ++
      " energetics " ++ Quantity.writeList energetics.values

/-- A description reports the coefficients of a reaction and a summary. -/
theorem notes_describe
    (text : String)
    (equation : Equation)
    (energetics : Energetics α)
    (ordinal : Nat) :
    (vocabulary.describe text equation energetics ordinal).notes.toList =
      (if vocabulary.classify equation = .reaction then
          vocabulary.coefficientNotes equation.allTerms
        else
          []) ++
        [⟨.reaction, .debug, vocabulary.summary text equation energetics ordinal⟩] := by
  rw [describe]
  by_cases reaction : vocabulary.classify equation = .reaction
  · rw [if_pos reaction, if_pos reaction, Noted.notes_bind, Noted.notes_map,
      Array.toList_append, notes_stoichiometry]
    rfl
  · rw [if_neg reaction, if_neg reaction]
    rfl

/-! ## Compiled descriptors -/

/-- The stoichiometry of an equation counts its species, so only a number can be wrong. -/
theorem fault?_descriptorOf
    (text : String)
    (equation : Equation)
    (energetics : Energetics α)
    (ordinal : Nat) :
    (vocabulary.descriptorOf text equation energetics ordinal).fault? =
      if energetics.values.all Quantity.isFinite then
        none
      else
        some .energeticsNotFinite := by
  by_cases reaction : vocabulary.classify equation = .reaction
  · simp [Descriptor.fault?, descriptorOf, reaction]
  · simp [Descriptor.fault?, descriptorOf, reaction]

/-- A line that compiles describes an equation. -/
theorem exists_describe_of_compile
    {line : String}
    {ordinal : Nat}
    {compiled : Noted (Descriptor α)}
    (compiles : vocabulary.compile line ordinal = .ok compiled) :
    ∃ text equation energetics,
      compiled = vocabulary.describe text equation energetics ordinal := by
  rcases vocabulary.compile_eq_ok_iff.mp compiles with ⟨equation, _, _, compiledEq⟩
  exact ⟨_, equation, _, compiledEq⟩

/-- What is compiled is at fault for nothing but a number that is not finite. -/
theorem fault?_eq_some_iff_of_compile
    {line : String}
    {ordinal : Nat}
    {compiled : Noted (Descriptor α)}
    (compiles : vocabulary.compile line ordinal = .ok compiled)
    {fault : DescriptorFault} :
    compiled.value.fault? = some fault ↔
      fault = .energeticsNotFinite ∧
        ∃ value ∈ compiled.value.energetics.values,
          Quantity.isFinite value = false := by
  rcases vocabulary.exists_describe_of_compile compiles with
    ⟨text, equation, energetics, rfl⟩
  rw [value_describe, fault?_descriptorOf]
  split_ifs with finite
  · rw [List.all_eq_true] at finite
    refine iff_of_false nofun fun ⟨_, value, member, infinite⟩ => ?_
    rw [finite value member] at infinite
    cases infinite
  · rw [Bool.not_eq_true, List.all_eq_false] at finite
    rcases finite with ⟨value, member, infinite⟩
    rw [Option.some.injEq, eq_comm]
    exact (and_iff_left ⟨value, member, Bool.eq_false_of_not_eq_true infinite⟩).symm

end Vocabulary

/-- What a compiled line lists as its species, and how much of each. -/
structure Vocabulary.Lists
    {α : Type}
    [Quantity α]
    (vocabulary : Vocabulary)
    (compiled : Noted (Descriptor α)) :
    Prop where
  increasing :
    compiled.value.species.Pairwise fun first second => bytes first < bytes second
  mem_species_iff :
    ∀ symbol,
      symbol ∈ compiled.value.species ↔
        symbol ∈ vocabulary.symbols ∧
          ∃ term ∈ compiled.value.reactants ++ compiled.value.products,
            symbol.toList <:+: term.toList
  longestMatch?_eq_some_iff :
    ∀ term symbol,
      vocabulary.longestMatch? term = some symbol ↔
        symbol ∈ vocabulary.symbols ∧
          symbol.toList <:+: term.toList ∧ IsLongest vocabulary.symbols term symbol
  longestMatch?_eq_none_iff :
    ∀ term,
      vocabulary.longestMatch? term = none ↔
        ∀ symbol ∈ vocabulary.symbols, ¬ symbol.toList <:+: term.toList
  /-- A term is counted for a species of the list. -/
  tracked :
    ∀ term ∈ compiled.value.reactants ++ compiled.value.products, ∀ symbol,
      vocabulary.longestMatch? term = some symbol → symbol ∈ compiled.value.species
  /-- All that is reported of the terms is coefficients. -/
  notes_eq :
    ∃ summary,
      compiled.notes.toList =
        (if compiled.value.category = .reaction then
            vocabulary.coefficientNotes
              (compiled.value.reactants ++ compiled.value.products)
          else
            []) ++
          [⟨.reaction, .debug, summary⟩]
  isSome_stoichiometry_iff :
    compiled.value.stoichiometry.isSome = true ↔ compiled.value.category = .reaction
  /-- For every species of the list there is one entry, its net coefficient. -/
  stoichiometry_eq :
    ∀ coefficients,
      compiled.value.stoichiometry = some coefficients →
        coefficients.length = compiled.value.species.length ∧
          coefficients =
            compiled.value.species.map
              (vocabulary.netCoefficient compiled.value.equation)
  fault?_eq_some_iff :
    ∀ fault,
      compiled.value.fault? = some fault ↔
        fault = .energeticsNotFinite ∧
          ∃ value ∈ compiled.value.energetics.values,
            Quantity.isFinite value = false

/--
A descriptor lists the declared species whose symbols occur in its terms, in the order of
their bytes and each of them once.  A term is counted for the longest declared symbol in
it, the first of its length, and for none only when none is in it; so terms are counted
for species of the list, and all that is reported of them is coefficients.  Reactions and
no others have a stoichiometry, with the net coefficient of each species, so a descriptor
is at fault for nothing but a number that is not finite.
-/
theorem participants_complete
    {α : Type}
    [Quantity α]
    {registry : Registry α}
    (filled : registry.Filled)
    (marker line : String)
    (ordinal : Nat)
    {compiled : Noted (Descriptor α)}
    (compiles :
      Vocabulary.compile { symbols := registry.symbols, marker } line ordinal =
        .ok compiled) :
    Vocabulary.Lists { symbols := registry.symbols, marker } compiled := by
  have faults (fault : DescriptorFault) :
      compiled.value.fault? = some fault ↔
        fault = .energeticsNotFinite ∧
          ∃ value ∈ compiled.value.energetics.values,
            Quantity.isFinite value = false :=
    Vocabulary.fault?_eq_some_iff_of_compile _ compiles
  have sorted : registry.symbols.Pairwise (· < ·) := filled.pairwise_symbols
  rcases Vocabulary.exists_describe_of_compile _ compiles with
    ⟨text, equation, energetics, rfl⟩
  constructor
  case increasing =>
    rw [Vocabulary.value_describe]
    exact (sorted.filter _).imp lt_iff_bytes_lt.mp
  case mem_species_iff =>
    intro symbol
    simp only [Vocabulary.value_describe, ← occursIn_iff_isInfix]
    exact Vocabulary.mem_participants_iff _
  case longestMatch?_eq_some_iff =>
    intro term symbol
    simp only [← occursIn_iff_isInfix]
    exact Vocabulary.longestMatch?_eq_some_iff sorted
  case longestMatch?_eq_none_iff =>
    intro term
    simp only [← occursIn_iff_isInfix]
    exact Vocabulary.longestMatch?_eq_none_iff
  case tracked =>
    intro term member symbol found
    rw [Vocabulary.value_describe] at member ⊢
    exact Vocabulary.mem_participants_of_longestMatch? _ member found
  case notes_eq =>
    rw [Vocabulary.value_describe]
    exact ⟨_, Vocabulary.notes_describe _ text equation energetics ordinal⟩
  case isSome_stoichiometry_iff =>
    rw [Vocabulary.value_describe]
    by_cases reaction :
        Vocabulary.classify { symbols := registry.symbols, marker } equation = .reaction
    · simp [Vocabulary.descriptorOf, reaction]
    · simp [Vocabulary.descriptorOf, reaction]
  case stoichiometry_eq =>
    intro coefficients
    rw [Vocabulary.value_describe]
    by_cases reaction :
        Vocabulary.classify { symbols := registry.symbols, marker } equation = .reaction
    · rw [Vocabulary.descriptorOf, if_pos reaction]
      rintro ⟨⟩
      exact ⟨List.length_map _, rfl⟩
    · rw [Vocabulary.descriptorOf, if_neg reaction]
      rintro ⟨⟩
  case fault?_eq_some_iff => exact faults

/-- Species of which two have symbols of one length and one is part of another. -/
def overlappingRegistry : Registry ℚ :=
  { species :=
      [{ symbol := "A", weight := 1 }, { symbol := "A2", weight := 2 },
        { symbol := "B2", weight := 2 }] }

theorem filled_overlappingRegistry : overlappingRegistry.Filled := by
  have first :
      ({} : Registry ℚ).addSpecies "B2" 2 =
        .ok { species := [{ symbol := "B2", weight := 2 }] } := by
    rfl
  have second :
      ({ species := [{ symbol := "B2", weight := 2 }] } : Registry ℚ).addSpecies
          "A" 1 =
        .ok
          { species :=
              [{ symbol := "A", weight := 1 }, { symbol := "B2", weight := 2 }] } := by
    rfl
  have third :
      ({ species :=
            [{ symbol := "A", weight := 1 }, { symbol := "B2", weight := 2 }] } :
          Registry ℚ).addSpecies "A2" 2 =
        .ok overlappingRegistry := by
    rfl
  exact ((Registry.Filled.empty.addSpecies first).addSpecies second).addSpecies third

theorem participants_complete_overlapping :
    ∃ compiled : Noted (Descriptor ℚ),
      Vocabulary.compile { symbols := overlappingRegistry.symbols, marker := "#" }
          "A2B2# + 2A2# -> 2A + B2, 1.0" 0 =
        .ok compiled ∧
        Vocabulary.longestMatch?
            { symbols := overlappingRegistry.symbols, marker := "#" } "A2B2#" =
          some "A2" ∧
          compiled.value.species = ["A", "A2", "B2"] ∧
            compiled.value.stoichiometry = some [2, -2, 1] ∧
              Vocabulary.Lists
                  { symbols := overlappingRegistry.symbols, marker := "#" } compiled ∧
                compiled.value.fault? = none := by
  let vocabulary : Vocabulary :=
    { symbols := overlappingRegistry.symbols, marker := "#" }
  let equation : Equation := { reactants := ["A2B2#", "2A2#"], products := ["2A", "B2"] }
  have split :
      Equation.ofText? (α := ℚ) "A2B2# + 2A2# -> 2A + B2".toList = .ok equation :=
    Equation.ofText?_eq_ok_iff.mpr
      ⟨"A2B2# + 2A2# ".toList, " 2A + B2".toList, by decide +kernel, by decide +kernel,
        by decide +kernel, by decide, by decide⟩
  have fields :
      Vocabulary.lineFields "A2B2# + 2A2# -> 2A + B2, 1.0" =
        ("A2B2# + 2A2# -> 2A + B2".toList, "1.0".toList) := by
    decide +kernel
  have compiles :
      vocabulary.compile "A2B2# + 2A2# -> 2A + B2, 1.0" 0 =
        .ok
          (vocabulary.describe "A2B2# + 2A2# -> 2A + B2" equation
            (Vocabulary.fieldEnergetics "1.0".toList : Energetics ℚ) 0) := by
    refine vocabulary.compile_eq_ok_iff.mpr ⟨equation, ?_⟩
    rw [fields]
    exact ⟨split, rfl, by rw [String.ofList_toList]⟩
  have lists := participants_complete filled_overlappingRegistry "#" _ 0 compiles
  refine
    ⟨_, compiles, by decide +kernel, by decide +kernel, by decide +kernel, lists, ?_⟩
  rw [Option.eq_none_iff_forall_ne_some]
  intro fault faulty
  rcases (lists.fault?_eq_some_iff fault).mp faulty with ⟨_, value, _, infinite⟩
  rw [ExactQuantity.isFinite_eq] at infinite
  cases infinite

end SurfaceKinetics
