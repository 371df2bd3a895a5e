import Mathlib.Data.String.Basic
import SurfaceKinetics.Proofs.Input.Severity

/-!
# Filled registries

A registry is filled by declaring species and by registering processes.  The index of a
filled registry is right, wherever its descriptors come from, and a species is declared
once and where its symbol keeps the order.  Reading fills a registry and does nothing
else to it.
-/

namespace SurfaceKinetics

variable {α : Type}

namespace Registry

/-! ## Declaring in order -/

variable [Quantity α]

/-- A species that is declared had not been declared before. -/
theorem eq_of_addSpecies
    {registry next : Registry α}
    {symbol : String}
    {weight : α}
    (added : registry.addSpecies symbol weight = .ok next) :
    registry.species? symbol = none ∧
      next =
        { registry with
          species := insertSpecies { symbol, weight } registry.species } := by
  rw [addSpecies] at added
  split at added
  · split at added
    · cases added
    · next unknown =>
      cases added
      exact ⟨unknown, rfl⟩
  · cases added

/-- Declaring a species leaves processes and their index as they are. -/
theorem Indexed.of_addSpecies
    {registry next : Registry α}
    {symbol : String}
    {weight : α}
    (indexed : registry.Indexed)
    (added : registry.addSpecies symbol weight = .ok next) :
    next.Indexed := by
  rw [(eq_of_addSpecies added).2]
  exact indexed

omit [Quantity α] in
/-- A new symbol is inserted where it keeps the order. -/
theorem pairwise_symbol_insertSpecies
    {new : Species α}
    {species : List (Species α)}
    (sorted : (species.map Species.symbol).Pairwise (· < ·))
    (undeclared : new.symbol ∉ species.map Species.symbol) :
    ((insertSpecies new species).map Species.symbol).Pairwise (· < ·) := by
  induction species with
  | nil => exact List.pairwise_singleton _ _
  | cons first rest induction =>
      rw [List.map_cons, List.pairwise_cons] at sorted
      rw [List.map_cons, List.mem_cons, not_or] at undeclared
      rw [insertSpecies]
      split_ifs with before
      · refine List.pairwise_cons.mpr ⟨?_, List.pairwise_cons.mpr sorted⟩
        refine List.forall_mem_cons.mpr ⟨before, fun symbol member => ?_⟩
        exact lt_trans before (sorted.1 symbol member)
      · have after : first.symbol < new.symbol :=
          lt_of_le_of_ne (not_lt.mp before) (Ne.symm undeclared.1)
        have inserted := (insertSpecies_perm new rest).map Species.symbol
        refine
          List.pairwise_cons.mpr
            ⟨fun symbol member => ?_, induction sorted.2 undeclared.2⟩
        rcases List.mem_cons.mp (inserted.mem_iff.mp member) with rfl | declared
        · exact after
        · exact sorted.1 symbol declared

theorem pairwise_symbols_of_addSpecies
    {registry next : Registry α}
    {symbol : String}
    {weight : α}
    (sorted : registry.symbols.Pairwise (· < ·))
    (added : registry.addSpecies symbol weight = .ok next) :
    next.symbols.Pairwise (· < ·) := by
  rcases eq_of_addSpecies added with ⟨unknown, rfl⟩
  refine pairwise_symbol_insertSpecies sorted fun declared => ?_
  rcases List.mem_map.mp declared with ⟨species, member, same⟩
  rw [species?, List.find?_eq_none] at unknown
  exact unknown species member (decide_eq_true same)

/-! ## Filling -/

/-- The registries that are filled by declaring species and registering processes. -/
inductive Filled : Registry α → Prop where
  | empty : Filled {}
  | addSpecies
      {registry next : Registry α}
      {symbol : String}
      {weight : α}
      (filled : Filled registry)
      (added : registry.addSpecies symbol weight = .ok next) :
      Filled next
  | register
      {registry : Registry α}
      (filled : Filled registry)
      (descriptor : Descriptor α) :
      Filled (registry.register descriptor).value

namespace Filled

variable {registry : Registry α}

/-- The index of a filled registry is right. -/
theorem indexed (filled : registry.Filled) : registry.Indexed := by
  induction filled with
  | empty => exact indexed_of_unregistered rfl rfl
  | addSpecies _ added indexed => exact indexed.of_addSpecies added
  | register _ descriptor indexed => exact indexed.register descriptor

/-- The symbols of a filled registry stand in their order, each of them once. -/
theorem pairwise_symbols (filled : registry.Filled) :
    registry.symbols.Pairwise (· < ·) := by
  induction filled with
  | empty => exact List.Pairwise.nil
  | addSpecies _ added sorted => exact pairwise_symbols_of_addSpecies sorted added
  | @register registry _ descriptor sorted =>
      rw [symbols, species_register]
      exact sorted

theorem foldlM_register
    (filled : registry.Filled)
    (descriptors : List (Descriptor α)) :
    (descriptors.foldlM Registry.register registry).value.Filled := by
  induction descriptors generalizing registry with
  | nil => exact filled
  | cons descriptor descriptors induction =>
      rw [List.foldlM_cons, Noted.value_bind]
      exact induction (filled.register descriptor)

end Filled

end Registry

/-! ## Reading fills a registry -/

namespace Draft

variable [Quantity α]

theorem filled_of_declare
    {registry next : Registry α}
    {line : Line}
    (filled : registry.Filled)
    (declares : declare registry line = .ok next) :
    next.Filled := by
  rw [declare] at declares
  split at declares
  · split at declares
    · exact filled.addSpecies declares
    · cases declares
  · cases declares
  · cases declares

theorem invariant_filled :
    Invariant fun draft : Draft α => draft.input.registry.Filled where
  declared := filled_of_declare
  recovered filled _ := filled
  applied number directive filled _ others := by
    cases directive with
    | species body => exact (others body rfl).elim
    | _ => exact filled

end Draft

/-- The registry of an input that has been read is filled. -/
theorem SimulationInput.filled_of_read
    [Quantity α]
    {source : String}
    {input : SimulationInput α}
    (read : (SimulationInput.read source).value = .ok input) :
    input.registry.Filled := by
  rcases exists_draft read with ⟨draft, draftEq, rfl⟩
  rw [Draft.finish_eq]
  exact (Draft.invariant_filled.readSegments .empty draftEq).foldlM_register _

end SurfaceKinetics
