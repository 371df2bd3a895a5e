import SurfaceKinetics.Input.Reading
import SurfaceKinetics.Proofs.Input.Index
import SurfaceKinetics.Proofs.Reaction.Description

/-!
# Names of processes

The name of a compiled process is its category followed by its ordinal.  No category
has a digit in its name, so names tell ordinals apart; processes with different
ordinals are registered one behind the other and none of them replaces another.
-/

namespace SurfaceKinetics

/-! ## Names tell ordinals apart -/

theorem Category.filter_isDigit_name (category : Category) :
    category.name.toList.filter Char.isDigit = [] := by
  cases category <;> decide +kernel

theorem filter_isDigit_toString (ordinal : Nat) :
    (toString ordinal).toList.filter Char.isDigit = (toString ordinal).toList := by
  rw [List.filter_eq_self]
  intro letter member
  rw [Nat.toString_eq_repr, Nat.toList_repr] at member
  exact Nat.isDigit_of_mem_toDigits (by decide) (by decide) member

theorem Category.ordinal_eq_of_name_eq
    {first second : Category}
    {ordinal other : Nat}
    (same : first.name ++ toString ordinal = second.name ++ toString other) :
    ordinal = other := by
  have digits := congrArg (fun name => name.toList.filter Char.isDigit) same
  simp only [String.toList_append, List.filter_append, filter_isDigit_name,
    filter_isDigit_toString, List.nil_append] at digits
  rw [Nat.toString_eq_repr, Nat.toString_eq_repr, Nat.toList_repr,
    Nat.toList_repr] at digits
  rw [← Nat.ofDigitChars_ten_toDigits (n := ordinal), digits,
    Nat.ofDigitChars_ten_toDigits]

theorem Vocabulary.name_of_compile
    {α : Type}
    [Quantity α]
    {vocabulary : Vocabulary}
    {line : String}
    {ordinal : Nat}
    {compiled : Noted (Descriptor α)}
    (compiles : vocabulary.compile line ordinal = .ok compiled) :
    compiled.value.name = compiled.value.category.name ++ toString ordinal := by
  rcases vocabulary.compile_eq_ok_iff.mp compiles with ⟨equation, _, _, rfl⟩
  rw [value_describe]
  rfl

namespace Registry

variable {α : Type}

/-! ## Registering -/

theorem Indexed.foldlM_register
    {registry : Registry α}
    (indexed : registry.Indexed)
    (descriptors : List (Descriptor α)) :
    (descriptors.foldlM Registry.register registry).value.Indexed := by
  induction descriptors generalizing registry with
  | nil => exact indexed
  | cons descriptor descriptors induction =>
      rw [List.foldlM_cons, Noted.value_bind]
      exact induction (indexed.register descriptor)

theorem species_foldlM_register
    (registry : Registry α)
    (descriptors : List (Descriptor α)) :
    (descriptors.foldlM register registry).value.species = registry.species := by
  induction descriptors generalizing registry with
  | nil => rfl
  | cons descriptor descriptors induction =>
      rw [List.foldlM_cons, Noted.value_bind, induction, species_register]

/-- Processes with names of their own are registered one behind the other. -/
theorem processes_foldlM_register
    {registry : Registry α}
    (indexed : registry.Indexed)
    {descriptors : List (Descriptor α)}
    (distinct :
      ((registry.processes ++ descriptors).map Descriptor.name).Nodup) :
    (descriptors.foldlM register registry).value.processes =
      registry.processes ++ descriptors := by
  induction descriptors generalizing registry with
  | nil => simp
  | cons descriptor descriptors induction =>
      have new : descriptor.name ∉ registry.processes.map Descriptor.name := by
        rw [List.map_append, List.nodup_append] at distinct
        intro taken
        exact
          distinct.2.2 _ taken _ (List.mem_map_of_mem List.mem_cons_self) rfl
      have registered := processes_register indexed descriptor
      rw [if_neg new] at registered
      rw [List.foldlM_cons, Noted.value_bind, induction (indexed.register descriptor),
        registered, List.append_assoc, List.singleton_append]
      rwa [registered, List.append_assoc, List.singleton_append]

end Registry

/-! ## Compiling numbered lines -/

namespace Vocabulary

variable
    {α : Type}
    [Quantity α]
    (vocabulary : Vocabulary)

/-- The process that a numbered line compiles to. -/
def compiledLine? (line : Line × Nat) : Option (Descriptor α) :=
  (vocabulary.compile (String.ofList line.1.text) line.2).toOption.map
    Noted.value

/-- The error with which a numbered line fails to compile. -/
def lineFailure? (line : Line × Nat) : Option (InputError α) :=
  Draft.failure? (vocabulary.compile (String.ofList line.1.text) line.2)

theorem compiledLine?_eq_some_iff
    {line : Line × Nat}
    {process : Descriptor α} :
    vocabulary.compiledLine? line = some process ↔
      ∃ compiled,
        vocabulary.compile (String.ofList line.1.text) line.2 = .ok compiled ∧
          compiled.value = process := by
  rw [compiledLine?]
  cases vocabulary.compile (α := α) (String.ofList line.1.text) line.2 with
  | error error => simp [Except.toOption]
  | ok compiled => simp [Except.toOption]

theorem name_of_compiledLine?
    {line : Line × Nat}
    {process : Descriptor α}
    (compiled : vocabulary.compiledLine? line = some process) :
    process.name = process.category.name ++ toString line.2 := by
  rcases vocabulary.compiledLine?_eq_some_iff.mp compiled with
    ⟨noted, compiles, rfl⟩
  exact name_of_compile compiles

/-- Lines with ordinals of their own compile to processes with names of their own. -/
theorem nodup_names_compiledLine?
    {lines : List (Line × Nat)}
    (distinct : (lines.map Prod.snd).Nodup) :
    ((lines.filterMap (vocabulary.compiledLine? (α := α))).map
        Descriptor.name).Nodup := by
  rw [List.Nodup, List.pairwise_map, List.pairwise_filterMap]
  rw [List.Nodup, List.pairwise_map] at distinct
  refine distinct.imp ?_
  intro first second different process compiled other otherCompiled same
  rw [vocabulary.name_of_compiledLine? compiled,
    vocabulary.name_of_compiledLine? otherCompiled] at same
  exact different (Category.ordinal_eq_of_name_eq same)

end Vocabulary

end SurfaceKinetics
