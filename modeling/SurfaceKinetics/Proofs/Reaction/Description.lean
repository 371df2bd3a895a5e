import SurfaceKinetics.SurfaceProcess.Binding

/-!
# What a compiled line describes

A line that compiles has an equation, and its descriptor is read off that equation
and the energetics field.  The coefficient of a species in the stoichiometry is
what the product terms count of it less what the reactant terms count, whatever
order the terms are in and however many name the same species.
-/

namespace SurfaceKinetics

theorem netTotal_append (first second : List Int) :
    netTotal (first ++ second) = netTotal first + netTotal second := by
  induction first with
  | nil => exact (Int.zero_add _).symm
  | cons change first induction =>
      rw [List.cons_append, netTotal_cons, netTotal_cons, induction,
        Int.add_assoc]

/-- What counted species add up to for one of them. -/
def amount (species : String) (counted : List (String × Int)) : Int :=
  netTotal <|
    counted.map fun entry => if entry.1 = species then entry.2 else 0

@[simp]
theorem amount_nil (species : String) : amount species [] = 0 := rfl

@[simp]
theorem amount_cons
    (species : String)
    (entry : String × Int)
    (counted : List (String × Int)) :
    amount species (entry :: counted) =
      (if entry.1 = species then entry.2 else 0) + amount species counted :=
  rfl

theorem amount_append
    (species : String)
    (first second : List (String × Int)) :
    amount species (first ++ second) =
      amount species first + amount species second := by
  rw [amount, List.map_append, netTotal_append, amount, amount]

namespace Vocabulary

variable (vocabulary : Vocabulary)

/-- The species that terms name, each with the coefficient in its term. -/
def countedTerms (terms : List String) : List (String × Int) :=
  terms.filterMap fun term => (vocabulary.termCoefficient term).value

theorem countedTerms_append (first second : List String) :
    vocabulary.countedTerms (first ++ second) =
      vocabulary.countedTerms first ++ vocabulary.countedTerms second :=
  List.filterMap_append

theorem countedTerms_cons (term : String) (terms : List String) :
    vocabulary.countedTerms (term :: terms) =
      vocabulary.countedTerms [term] ++ vocabulary.countedTerms terms :=
  vocabulary.countedTerms_append [term] terms

/-- What the products of an equation count of a species less the reactants. -/
def netCoefficient (equation : Equation) (species : String) : Int :=
  amount species (vocabulary.countedTerms equation.products) -
    amount species (vocabulary.countedTerms equation.reactants)

theorem termCoefficient_fst (term : String) :
    (vocabulary.termCoefficient term).value.map Prod.fst =
      vocabulary.longestMatch? term := by
  rw [termCoefficient, eraseLongest]
  cases vocabulary.longestMatch? term with
  | none => rfl
  | some symbol =>
      dsimp only
      split <;> rfl

/-- Terms are counted for the species that they name. -/
theorem map_fst_countedTerms (terms : List String) :
    (vocabulary.countedTerms terms).map Prod.fst =
      terms.filterMap vocabulary.longestMatch? := by
  have species :
      (fun term => (vocabulary.termCoefficient term).value.map Prod.fst) =
        vocabulary.longestMatch? :=
    funext vocabulary.termCoefficient_fst
  rw [countedTerms, List.map_filterMap, species]

/-! ## Stoichiometry -/

/-- A term that is not counted leaves the totals. -/
theorem value_addTerm_of_uncounted
    (name : String)
    (sign : Int)
    (totals : List (String × Int))
    {term : String}
    (uncounted : (vocabulary.termCoefficient term).value = none) :
    (vocabulary.addTerm name sign totals term).value = totals := by
  rw [addTerm, Noted.value_bind, uncounted]
  rfl

/-- A term that is counted adds to its species, which may have no total. -/
theorem value_addTerm_of_counted
    (name : String)
    (sign : Int)
    (totals : List (String × Int))
    {term symbol : String}
    {coefficient : Int}
    (counted :
      (vocabulary.termCoefficient term).value = some (symbol, coefficient)) :
    (vocabulary.addTerm name sign totals term).value =
      addTo symbol (sign * coefficient) totals := by
  rw [addTerm, Noted.value_bind, counted]
  dsimp only
  split
  · rfl
  · next untracked =>
    refine ((List.map_congr_left fun total member => ?_).trans (List.map_id totals)).symm
    refine if_neg fun same => untracked (List.any_eq_true.mpr ⟨total, member, ?_⟩)
    exact decide_eq_true same

/-- A term adds its signed coefficient to the total of its species. -/
theorem value_addTerm
    (name : String)
    (sign : Int)
    (totals : List (String × Int))
    (term : String) :
    (vocabulary.addTerm name sign totals term).value =
      totals.map fun total =>
        (total.1,
          total.2 + sign * amount total.1 (vocabulary.countedTerms [term])) := by
  cases counted : (vocabulary.termCoefficient term).value with
  | none =>
      rw [value_addTerm_of_uncounted _ _ _ _ counted]
      simp [countedTerms, counted]
  | some entry =>
      rcases entry with ⟨symbol, coefficient⟩
      rw [value_addTerm_of_counted _ _ _ _ counted, addTo]
      refine List.map_congr_left fun total _ => ?_
      by_cases same : total.1 = symbol
      · simp [countedTerms, counted, same]
      · simp [countedTerms, counted, same, Ne.symm same]

theorem value_foldlM_addTerm
    (name : String)
    (sign : Int)
    (totals : List (String × Int))
    (terms : List String) :
    (terms.foldlM (vocabulary.addTerm name sign) totals).value =
      totals.map fun total =>
        (total.1,
          total.2 + sign * amount total.1 (vocabulary.countedTerms terms)) := by
  induction terms generalizing totals with
  | nil => simp [countedTerms]
  | cons term terms induction =>
      rw [List.foldlM_cons, Noted.value_bind, induction, value_addTerm,
        List.map_map, vocabulary.countedTerms_cons term terms]
      refine List.map_congr_left fun total _ => ?_
      simp only [Function.comp_apply, amount_append, Int.mul_add, Int.add_assoc]

/-- The stoichiometry lists the net coefficients. -/
theorem value_stoichiometry
    (name : String)
    (equation : Equation)
    (species : List String) :
    (vocabulary.stoichiometry name equation species).value =
      species.map (vocabulary.netCoefficient equation) := by
  rw [stoichiometry]
  simp only [Noted.value_bind, Noted.value_pure, value_foldlM_addTerm,
    List.map_map]
  refine List.map_congr_left fun symbol _ => ?_
  simp only [Function.comp_apply, netCoefficient]
  omega

/-! ## Descriptors -/

variable {α : Type}

/-- The descriptor of an equation with its energetics. -/
def descriptorOf
    (text : String)
    (equation : Equation)
    (energetics : Energetics α)
    (ordinal : Nat) :
    Descriptor α where
  name := (vocabulary.classify equation).name ++ toString ordinal
  category := vocabulary.classify equation
  reaction := text
  reactants := equation.reactants
  products := equation.products
  species := vocabulary.participants equation
  energetics
  stoichiometry :=
    if vocabulary.classify equation = .reaction then
      some <|
        (vocabulary.participants equation).map
          (vocabulary.netCoefficient equation)
    else
      none

variable [Quantity α]

theorem value_describe
    (text : String)
    (equation : Equation)
    (energetics : Energetics α)
    (ordinal : Nat) :
    (vocabulary.describe text equation energetics ordinal).value =
      vocabulary.descriptorOf text equation energetics ordinal := by
  rw [describe, descriptorOf]
  by_cases reaction : vocabulary.classify equation = .reaction
  · simp [reaction, value_stoichiometry]
  · simp [reaction]

/-- A line that compiles has an equation and a field of energetics. -/
theorem compile_eq_ok_iff
    {line : String}
    {ordinal : Nat}
    {compiled : Noted (Descriptor α)} :
    vocabulary.compile line ordinal = .ok compiled ↔
      ∃ equation,
        Equation.ofText? (α := α) (lineFields line).1 = .ok equation ∧
          (lineFields line).2.isEmpty = false ∧
            compiled =
              vocabulary.describe (String.ofList (lineFields line).1) equation
                (fieldEnergetics (lineFields line).2) ordinal := by
  rw [compile]
  dsimp only
  cases Equation.ofText? (α := α) (lineFields line).1 with
  | error error => simp [bind, Except.bind]
  | ok equation =>
      cases empty : (lineFields line).2.isEmpty with
      | true => simp [bind, Except.bind, throw, throwThe, MonadExceptOf.throw]
      | false => simp [bind, Except.bind, pure, Except.pure, eq_comm]

end Vocabulary

/-! ## Processes -/

namespace Registry

variable {α : Type} [Quantity α]

/-- The descriptor of a process line and the process that it is bound to. -/
def boundLine?
    (registry : Registry α)
    (growth : List String)
    (line : String)
    (ordinal : Nat) :
    Option (Noted (Descriptor α) × SurfaceProcess α) := do
  let compiled ← (registry.vocabulary.compile line ordinal).toOption
  let process ←
    (SurfaceProcess.bind compiled.value registry growth).value.toOption
  pure (compiled, process)

theorem of_boundLine?
    {registry : Registry α}
    {growth : List String}
    {line : String}
    {ordinal : Nat}
    {compiled : Noted (Descriptor α)}
    {process : SurfaceProcess α}
    (found :
      registry.boundLine? growth line ordinal = some (compiled, process)) :
    registry.vocabulary.compile line ordinal = .ok compiled ∧
      (SurfaceProcess.bind compiled.value registry growth).value =
        .ok process := by
  rw [boundLine?] at found
  cases compiles : registry.vocabulary.compile (α := α) line ordinal with
  | error error => simp [compiles, Except.toOption] at found
  | ok other =>
      cases bound : (SurfaceProcess.bind other.value registry growth).value with
      | error fault => simp [compiles, bound, Except.toOption] at found
      | ok candidate =>
          simp only [compiles, bound, Except.toOption, Option.bind_eq_bind,
            Option.bind_some, Option.pure_def, Option.some.injEq,
            Prod.mk.injEq] at found
          rcases found with ⟨rfl, rfl⟩
          exact ⟨rfl, bound⟩

end Registry

end SurfaceKinetics
