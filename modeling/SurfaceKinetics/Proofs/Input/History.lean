import Mathlib.Data.List.Induction
import SurfaceKinetics.Proofs.Input.Filling
import SurfaceKinetics.Proofs.Text.ByteOrder

/-!
# The history of a registry

A registry is filled by one entry after the other: species are declared and processes
are registered, in any order and under any names.  What it holds in the end can be read
off the history of its entries.  Of the species with one symbol it holds the first whose
weight is proper; every other declaration fails and leaves no trace.  Of the processes
with one name it holds the last, in the place of the first, which is the place that its
index holds for the name.
-/

namespace SurfaceKinetics

namespace Registry

/-! ## Entries -/

/-- A species to declare or a process to register. -/
inductive Entry (α : Type) where
  | species (symbol : String) (weight : α)
  | process (descriptor : Descriptor α)

/-- Work on a registry in place; an error keeps the changes made before it. -/
abbrev InPlace (α β : Type) : Type :=
  ExceptT (InputError α) (StateT (Registry α) Noted) β

variable {α : Type} [Quantity α]

/-- A weight is one that a species can have. -/
def IsProperWeight (weight : α) : Prop :=
  Quantity.isFinite weight = true ∧ Quantity.isPositive weight = true

instance (weight : α) : Decidable (IsProperWeight weight) :=
  inferInstanceAs (Decidable (_ ∧ _))

/-- Inserts a species unless one with its symbol has been found. -/
def insertUnlessFound (new : Species α) : Option (Species α) → InPlace α Unit
  | some _ => throw (.duplicateSpecies new.symbol)
  | none =>
    modify fun registry =>
      { registry with species := insertSpecies new registry.species }

/-- Makes an entry in a registry. -/
def enter : Entry α → InPlace α Unit
  | .species symbol weight => do
    if ¬ IsProperWeight weight then
      throw (.molecularWeight symbol (.number weight))
    insertUnlessFound { symbol, weight } ((← get).species? symbol)
  | .process descriptor => do
    set (← (← get).register descriptor)

/-- What an entry yields, and the registry that it leaves. -/
def outcome
    (registry : Registry α)
    (entry : Entry α) :
    Except (InputError α) Unit × Registry α :=
  ((ExceptT.run (enter entry)).run registry).value

/-- The registry after an entry. -/
def after (registry : Registry α) (entry : Entry α) : Registry α :=
  (registry.outcome entry).2

/-- The registry after some entries. -/
def ofEntries (entries : List (Entry α)) : Registry α := entries.foldl after {}

/-- A declaration in place leaves the registry with the species, or as it was. -/
theorem outcome_species (registry : Registry α) (symbol : String) (weight : α) :
    registry.outcome (.species symbol weight) =
      match registry.addSpecies symbol weight with
      | .ok next => (.ok (), next)
      | .error error => (.error error, registry) := by
  rw [addSpecies, outcome, enter]
  by_cases proper : IsProperWeight weight
  · rw [if_neg (not_not_intro proper), if_pos (Bool.and_eq_true_iff.mpr proper)]
    show
      ((ExceptT.run
        (insertUnlessFound { symbol, weight } (registry.species? symbol))).run
          registry).value = _
    cases registry.species? symbol with
    | none => rfl
    | some species => rfl
  · rw [if_pos proper, if_neg (mt Bool.and_eq_true_iff.mp proper)]
    rfl

theorem outcome_process (registry : Registry α) (descriptor : Descriptor α) :
    registry.outcome (.process descriptor) =
      (.ok (), (registry.register descriptor).value) :=
  rfl

@[simp]
theorem ofEntries_concat (entries : List (Entry α)) (entry : Entry α) :
    ofEntries (entries ++ [entry]) = (ofEntries entries).after entry := by
  rw [ofEntries, List.foldl_concat]
  rfl

/-! ## One entry -/

section Declaring

variable {registry : Registry α} {symbol : String} {weight : α}

theorem outcome_of_new
    (proper : IsProperWeight weight)
    (new : registry.species? symbol = none) :
    registry.outcome (.species symbol weight) =
      (.ok (),
        { registry with
          species := insertSpecies { symbol, weight } registry.species }) := by
  rw [outcome_species, addSpecies, if_pos (Bool.and_eq_true_iff.mpr proper), new]
  rfl

/-- A declaration that is refused leaves the registry as it was. -/
theorem outcome_of_refused
    (refused : ¬ (IsProperWeight weight ∧ registry.species? symbol = none)) :
    ∃ error, registry.outcome (.species symbol weight) = (.error error, registry) := by
  rw [outcome_species, addSpecies]
  by_cases proper : IsProperWeight weight
  · rw [if_pos (Bool.and_eq_true_iff.mpr proper)]
    cases found : registry.species? symbol with
    | none => exact (refused ⟨proper, found⟩).elim
    | some species => exact ⟨_, rfl⟩
  · rw [if_neg (mt Bool.and_eq_true_iff.mp proper)]
    exact ⟨_, rfl⟩

theorem outcome_eq_ok_iff :
    (registry.outcome (.species symbol weight)).1 = .ok () ↔
      IsProperWeight weight ∧ registry.species? symbol = none := by
  by_cases accepted : IsProperWeight weight ∧ registry.species? symbol = none
  · rw [outcome_of_new accepted.1 accepted.2]
    exact iff_of_true rfl accepted
  · rcases outcome_of_refused accepted with ⟨error, outcomeEq⟩
    rw [outcomeEq]
    exact iff_of_false nofun accepted

theorem after_of_refused
    (refused : ¬ (IsProperWeight weight ∧ registry.species? symbol = none)) :
    registry.after (.species symbol weight) = registry := by
  rcases outcome_of_refused refused with ⟨error, outcomeEq⟩
  rw [after, outcomeEq]

/-- A declaration adds its species, or none when it is refused. -/
theorem mem_species_after_iff {species : Species α} :
    species ∈ (registry.after (.species symbol weight)).species ↔
      species ∈ registry.species ∨
        (IsProperWeight weight ∧ registry.species? symbol = none) ∧
          species = { symbol, weight } := by
  by_cases accepted : IsProperWeight weight ∧ registry.species? symbol = none
  · rw [after, outcome_of_new accepted.1 accepted.2,
      (insertSpecies_perm _ _).mem_iff, List.mem_cons, or_comm]
    exact or_congr_right (and_iff_right accepted).symm
  · rw [after_of_refused accepted]
    exact (or_iff_left fun new => accepted new.1).symm

theorem processes_after_species :
    (registry.after (.species symbol weight)).processes = registry.processes := by
  by_cases accepted : IsProperWeight weight ∧ registry.species? symbol = none
  · rw [after, outcome_of_new accepted.1 accepted.2]
  · rw [after_of_refused accepted]

theorem process?_after_species (name : String) :
    (registry.after (.species symbol weight)).process? name =
      registry.process? name := by
  by_cases accepted : IsProperWeight weight ∧ registry.species? symbol = none
  · rw [after, outcome_of_new accepted.1 accepted.2]
    rfl
  · rw [after_of_refused accepted]

end Declaring

theorem filled_after {registry : Registry α} (filled : registry.Filled) (entry : Entry α) :
    (registry.after entry).Filled := by
  cases entry with
  | process descriptor => exact filled.register descriptor
  | species symbol weight =>
      rw [after, outcome_species]
      cases added : registry.addSpecies symbol weight with
      | ok next => exact filled.addSpecies added
      | error error => exact filled

theorem filled_ofEntries (entries : List (Entry α)) : (ofEntries entries).Filled :=
  List.foldlRecOn entries after .empty fun _ filled entry _ => filled_after filled entry

theorem indexed_ofEntries (entries : List (Entry α)) : (ofEntries entries).Indexed :=
  (filled_ofEntries entries).indexed

/-! ## What a history says -/

namespace Entry

/-- The species that an entry declares with a proper weight. -/
def species? : Entry α → Option (Species α)
  | .species symbol weight =>
    if IsProperWeight weight then some { symbol, weight } else none
  | .process _ => none

omit [Quantity α] in
/-- The process that an entry registers. -/
def process? : Entry α → Option (Descriptor α)
  | .species _ _ => none
  | .process descriptor => some descriptor

end Entry

/-- The first species with a symbol that is declared with a proper weight. -/
def firstDeclared? (entries : List (Entry α)) (symbol : String) : Option (Species α) :=
  (entries.filterMap Entry.species?).find? fun species => species.symbol = symbol

/-- The processes that are registered, in their order. -/
def registrations (entries : List (Entry α)) : List (Descriptor α) :=
  entries.filterMap Entry.process?

/-- The last process that is registered under a name. -/
def lastRegistered? (entries : List (Entry α)) (name : String) : Option (Descriptor α) :=
  ((registrations entries).filter fun process => process.name = name).getLast?

section Concat

variable (entries : List (Entry α)) (descriptor : Descriptor α)

theorem firstDeclared?_concat_species (symbol : String) (weight : α) (other : String) :
    firstDeclared? (entries ++ [.species symbol weight]) other =
      (firstDeclared? entries other).or
        (if IsProperWeight weight ∧ symbol = other then
            some { symbol, weight }
          else
            none) := by
  rw [firstDeclared?, List.filterMap_append, List.find?_append, firstDeclared?,
    List.filterMap_cons, Entry.species?]
  by_cases proper : IsProperWeight weight
  · rw [if_pos proper]
    by_cases same : symbol = other
    · rw [if_pos ⟨proper, same⟩]
      exact congrArg _ (List.find?_cons_of_pos (decide_eq_true same))
    · rw [if_neg fun both => same both.2]
      exact congrArg _ (List.find?_cons_of_neg (by simpa using same))
  · rw [if_neg proper, if_neg fun both => proper both.1]
    rfl

theorem firstDeclared?_concat_process (symbol : String) :
    firstDeclared? (entries ++ [.process descriptor]) symbol =
      firstDeclared? entries symbol := by
  rw [firstDeclared?, List.filterMap_append]
  exact congrArg (List.find? _) (List.append_nil _)

omit [Quantity α] in
theorem registrations_concat_species (symbol : String) (weight : α) :
    registrations (entries ++ [.species symbol weight]) = registrations entries := by
  rw [registrations, List.filterMap_append]
  exact List.append_nil _

omit [Quantity α] in
theorem registrations_concat_process :
    registrations (entries ++ [.process descriptor]) =
      registrations entries ++ [descriptor] := by
  rw [registrations, List.filterMap_append]
  rfl

omit [Quantity α] in
theorem lastRegistered?_concat_process (name : String) :
    lastRegistered? (entries ++ [.process descriptor]) name =
      if descriptor.name = name then
        some descriptor
      else
        lastRegistered? entries name := by
  rw [lastRegistered?, registrations_concat_process, List.filter_append,
    lastRegistered?]
  by_cases same : descriptor.name = name
  · have kept :
        [descriptor].filter (fun process => process.name = name) = [descriptor] :=
      List.filter_cons_of_pos (decide_eq_true same)
    rw [if_pos same, kept]
    exact List.getLast?_concat
  · have dropped : [descriptor].filter (fun process => process.name = name) = [] :=
      List.filter_cons_of_neg (by simpa using same)
    rw [if_neg same, dropped, List.append_nil]

end Concat

/-! ## What a registry holds -/

/-- Where the species are those that were declared first, they are found as such. -/
theorem species?_eq_of_mem_iff
    {registry : Registry α}
    {entries : List (Entry α)}
    (mem_iff :
      ∀ species,
        species ∈ registry.species ↔
          firstDeclared? entries species.symbol = some species)
    (symbol : String) :
    registry.species? symbol = firstDeclared? entries symbol := by
  cases found : registry.species? symbol with
  | some species =>
      have symbolEq : species.symbol = symbol := by simpa using List.find?_some found
      have declared := (mem_iff species).mp (List.mem_of_find?_eq_some found)
      rw [← declared, symbolEq]
  | none =>
      rw [species?, List.find?_eq_none] at found
      cases declared : firstDeclared? entries symbol with
      | none => rfl
      | some species =>
          have symbolEq : species.symbol = symbol := by
            simpa using List.find?_some declared
          rw [← symbolEq] at declared
          exact
            (found species ((mem_iff species).mpr declared)
              (decide_eq_true symbolEq)).elim

/-- A registry holds the first species with each symbol. -/
theorem mem_species_ofEntries_iff
    (entries : List (Entry α))
    (species : Species α) :
    species ∈ (ofEntries entries).species ↔
      firstDeclared? entries species.symbol = some species := by
  induction entries using List.reverseRecOn generalizing species with
  | nil => exact iff_of_false List.not_mem_nil nofun
  | append_singleton entries entry induction =>
      rw [ofEntries_concat]
      cases entry with
      | process descriptor =>
          rw [firstDeclared?_concat_process, after, outcome_process, species_register]
          exact induction species
      | species symbol weight =>
          rw [mem_species_after_iff, firstDeclared?_concat_species, induction species,
            species?_eq_of_mem_iff induction, Option.or_eq_some_iff]
          refine or_congr_right ⟨?_, ?_⟩
          · rintro ⟨⟨proper, new⟩, rfl⟩
            exact ⟨new, if_pos ⟨proper, rfl⟩⟩
          · rintro ⟨new, declared⟩
            split_ifs at declared with accepted
            rcases accepted with ⟨proper, rfl⟩
            exact ⟨⟨proper, new⟩, (Option.some.inj declared).symm⟩

theorem species?_ofEntries (entries : List (Entry α)) (symbol : String) :
    (ofEntries entries).species? symbol = firstDeclared? entries symbol :=
  species?_eq_of_mem_iff (mem_species_ofEntries_iff entries) symbol

theorem proper_of_firstDeclared?
    {entries : List (Entry α)}
    {symbol : String}
    {species : Species α}
    (declared : firstDeclared? entries symbol = some species) :
    IsProperWeight species.weight := by
  rcases List.mem_filterMap.mp (List.mem_of_find?_eq_some declared) with
    ⟨entry, _, entryEq⟩
  cases entry with
  | process descriptor => cases entryEq
  | species symbol weight =>
      rw [Entry.species?] at entryEq
      split_ifs at entryEq with proper
      cases entryEq
      exact proper

/-- Later entries take no species away. -/
theorem species_subset_ofEntries_append (entries later : List (Entry α)) :
    (ofEntries entries).species ⊆ (ofEntries (entries ++ later)).species := by
  intro species member
  rw [mem_species_ofEntries_iff, firstDeclared?] at member ⊢
  rw [List.filterMap_append, List.find?_append, member, Option.some_or]

/-- A registry holds the species whose declarations were accepted. -/
theorem mem_species_iff_accepted (entries : List (Entry α)) (species : Species α) :
    species ∈ (ofEntries entries).species ↔
      ∃ before later,
        entries = before ++ .species species.symbol species.weight :: later ∧
          ((ofEntries before).outcome
              (.species species.symbol species.weight)).1 =
            .ok () := by
  constructor
  · intro member
    induction entries using List.reverseRecOn with
    | nil => cases member
    | append_singleton entries entry induction =>
        have extended :
            species ∈ (ofEntries entries).species →
              ∃ before later,
                entries ++ [entry] =
                    before ++ .species species.symbol species.weight :: later ∧
                  ((ofEntries before).outcome
                      (.species species.symbol species.weight)).1 =
                    .ok () := by
          intro earlier
          rcases induction earlier with ⟨before, later, rfl, accepted⟩
          exact ⟨before, later ++ [entry], by simp, accepted⟩
        rw [ofEntries_concat] at member
        cases entry with
        | process descriptor =>
            rw [after, outcome_process, species_register] at member
            exact extended member
        | species symbol weight =>
            rcases mem_species_after_iff.mp member with earlier | ⟨accepted, rfl⟩
            · exact extended earlier
            · exact ⟨entries, [], rfl, outcome_eq_ok_iff.mpr accepted⟩
  · rintro ⟨before, later, rfl, accepted⟩
    rw [List.append_cons]
    apply species_subset_ofEntries_append
    rw [ofEntries_concat, mem_species_after_iff]
    exact Or.inr ⟨outcome_eq_ok_iff.mp accepted, rfl⟩

/-- A registry holds the last process with each name. -/
theorem process?_ofEntries (entries : List (Entry α)) (name : String) :
    (ofEntries entries).process? name = lastRegistered? entries name := by
  induction entries using List.reverseRecOn with
  | nil => rfl
  | append_singleton entries entry induction =>
      rw [ofEntries_concat]
      cases entry with
      | species symbol weight =>
          rw [process?_after_species, lastRegistered?, registrations_concat_species]
          exact induction
      | process descriptor =>
          rw [lastRegistered?_concat_process, after, outcome_process,
            process?_register (indexed_ofEntries entries), induction]

omit [Quantity α] in
/-- A name that comes last is kept when it is new. -/
theorem eraseDups_concat (names : List String) (name : String) :
    (names ++ [name]).eraseDups =
      if name ∈ names then names.eraseDups else names.eraseDups ++ [name] := by
  rw [List.eraseDups_append, List.removeAll]
  split_ifs with known
  · rw [List.filter_cons_of_neg (by simpa using known), List.filter_nil,
      List.eraseDups_nil, List.append_nil]
  · rw [List.filter_cons_of_pos (by simpa using known), List.filter_nil,
      List.eraseDups_cons]
    rfl

/-- The names of the processes stand in the order of their first registration. -/
theorem names_ofEntries (entries : List (Entry α)) :
    (ofEntries entries).processes.map Descriptor.name =
      ((registrations entries).map Descriptor.name).eraseDups := by
  induction entries using List.reverseRecOn with
  | nil => rfl
  | append_singleton entries entry induction =>
      rw [ofEntries_concat]
      cases entry with
      | species symbol weight =>
          rw [processes_after_species, registrations_concat_species, induction]
      | process descriptor =>
          rw [after, outcome_process, names_register (indexed_ofEntries entries),
            induction, registrations_concat_process, List.map_append, List.map_singleton,
            eraseDups_concat]
          simp only [List.mem_eraseDups]

/--
A registry is what the history of its entries says.  Its species stand in the order of
their bytes, and are the first of their symbols with a proper weight.  Its processes stand
in the order in which their names came first, and are the last of their names.  The index
holds the place of every name that came and of no other, and the process at this place is
the only one of the name; what is looked up under the name belongs to it.
-/
structure Follows (registry : Registry α) (entries : List (Entry α)) : Prop where
  increasing : registry.symbols.Pairwise fun first second => bytes first < bytes second
  mem_species_iff :
    ∀ species,
      species ∈ registry.species ↔
        firstDeclared? entries species.symbol = some species
  species?_eq : ∀ symbol, registry.species? symbol = firstDeclared? entries symbol
  proper : ∀ species ∈ registry.species, IsProperWeight species.weight
  names_eq :
    registry.processes.map Descriptor.name =
      ((registrations entries).map Descriptor.name).eraseDups
  distinct : (registry.processes.map Descriptor.name).Nodup
  place?_eq_some_iff :
    ∀ name place,
      registry.place? name = some place ↔
        ((registrations entries).map Descriptor.name).eraseDups[place]? = some name
  isSome_process?_iff :
    ∀ name,
      (registry.process? name).isSome = true ↔
        name ∈ (registrations entries).map Descriptor.name
  process?_eq : ∀ name, registry.process? name = lastRegistered? entries name
  process?_eq_find? :
    ∀ name,
      registry.process? name =
        registry.processes.find? fun process => process.name = name
  mem_processes_iff :
    ∀ process,
      process ∈ registry.processes ↔ registry.process? process.name = some process
  speciesOf_eq :
    ∀ name,
      registry.speciesOf name = (lastRegistered? entries name).map Descriptor.species
  energeticsOf_eq :
    ∀ name,
      registry.energeticsOf name =
        (lastRegistered? entries name).map fun process => process.energetics.values
  stoichiometryOf_eq :
    ∀ name,
      registry.stoichiometryOf name =
        (lastRegistered? entries name).bind Descriptor.stoichiometry

theorem follows_ofEntries (entries : List (Entry α)) :
    (ofEntries entries).Follows entries where
  increasing := (filled_ofEntries entries).pairwise_symbols.imp lt_iff_bytes_lt.mp
  mem_species_iff := mem_species_ofEntries_iff entries
  species?_eq := species?_ofEntries entries
  proper species member :=
    proper_of_firstDeclared? ((mem_species_ofEntries_iff entries species).mp member)
  names_eq := names_ofEntries entries
  distinct := (indexed_ofEntries entries).nodup_names
  place?_eq_some_iff name place := by
    rw [← names_ofEntries]
    exact indexed_ofEntries entries name place
  isSome_process?_iff name := by
    rw [(indexed_ofEntries entries).isSome_process?_iff, names_ofEntries,
      List.mem_eraseDups]
  process?_eq := process?_ofEntries entries
  process?_eq_find? := (indexed_ofEntries entries).process?_eq_find?
  mem_processes_iff process := by
    rw [(indexed_ofEntries entries).process?_eq_some_iff]
    exact (and_iff_left rfl).symm
  speciesOf_eq name := by rw [speciesOf, process?_ofEntries]
  energeticsOf_eq name := by rw [energeticsOf, process?_ofEntries]
  stoichiometryOf_eq name := by rw [stoichiometryOf, process?_ofEntries]

end Registry

/--
A registry follows the history of its entries, whatever they are.  It holds the species
whose declarations were accepted.  A declaration is accepted exactly when its weight is
proper and no declaration of its symbol was accepted before; one that is refused leaves
the registry as it was, and all that comes later is as if it had not been made.
-/
theorem registry_follows_history
    {α : Type}
    [Quantity α]
    (entries : List (Registry.Entry α)) :
    (Registry.ofEntries entries).Follows entries ∧
      (∀ species,
        species ∈ (Registry.ofEntries entries).species ↔
          ∃ before later,
            entries = before ++ .species species.symbol species.weight :: later ∧
              ((Registry.ofEntries before).outcome
                  (.species species.symbol species.weight)).1 =
                .ok ()) ∧
        ∀ before later symbol (weight : α),
          let registry := Registry.ofEntries before
          let outcome := registry.outcome (.species symbol weight)
          (outcome.1 = .ok () ↔
              Registry.IsProperWeight weight ∧
                Registry.firstDeclared? before symbol = none) ∧
            (∀ next, registry.addSpecies symbol weight = .ok next →
              outcome = (.ok (), next)) ∧
              ∀ error, registry.addSpecies symbol weight = .error error →
                outcome = (.error error, registry) ∧
                  Registry.ofEntries (before ++ .species symbol weight :: later) =
                    Registry.ofEntries (before ++ later) := by
  refine
    ⟨Registry.follows_ofEntries entries, Registry.mem_species_iff_accepted entries,
      fun before later symbol weight => ⟨?_, fun next added => ?_, fun error failed => ?_⟩⟩
  · rw [Registry.outcome_eq_ok_iff, Registry.species?_ofEntries]
  · rw [Registry.outcome_species, added]
  · have outcomeEq :
        (Registry.ofEntries before).outcome (.species symbol weight) =
          (.error error, Registry.ofEntries before) := by
      rw [Registry.outcome_species, failed]
    refine ⟨outcomeEq, ?_⟩
    rw [Registry.ofEntries, Registry.ofEntries, List.foldl_append, List.foldl_cons,
      List.foldl_append]
    exact congrArg (List.foldl Registry.after · later) (congrArg Prod.snd outcomeEq)

end SurfaceKinetics
