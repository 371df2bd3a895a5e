import Mathlib.Data.List.Nodup
import SurfaceKinetics.Registry

/-!
# The index of processes

A registry finds a process at the place that its index holds for the name.  The index is
right when it holds the place of every process under its name and nothing else.
Registering keeps it right: under a known name the process at the place is replaced by
one of the same name, and a new name has the place behind all others.  As long as the
index is right, looking a process up is searching the processes for its name.
-/

namespace SurfaceKinetics.Registry

theorem getElem?_concat_eq_some_iff
    {β : Type}
    {items : List β}
    {last item : β}
    {place : Nat} :
    (items ++ [last])[place]? = some item ↔
      items[place]? = some item ∨ place = items.length ∧ last = item := by
  rcases Nat.lt_trichotomy place items.length with before | rfl | behind
  · rw [List.getElem?_append_left before]
    exact (or_iff_left fun here => Nat.ne_of_lt before here.1).symm
  · rw [List.getElem?_concat_length, List.getElem?_eq_none (Nat.le_refl _)]
    simp
  · have beyond : (items ++ [last]).length ≤ place := by
      rw [List.length_append]
      exact behind
    rw [List.getElem?_eq_none beyond, List.getElem?_eq_none (Nat.le_of_lt behind)]
    refine iff_of_false nofun ?_
    rintro (⟨⟨⟩⟩ | ⟨rfl, _⟩)
    exact Nat.lt_irrefl _ behind

variable
    {α : Type}
    {registry : Registry α}

/-- The index holds the place of each process under its name, and nothing else. -/
def Indexed (registry : Registry α) : Prop :=
  ∀ name place,
    registry.place? name = some place ↔
      (registry.processes.map Descriptor.name)[place]? = some name

theorem indexed_of_unregistered
    (unregistered : registry.processes = [])
    (unnamed : registry.byName = []) :
    registry.Indexed := by
  intro name place
  rw [place?, unregistered, unnamed]
  exact iff_of_false nofun nofun

namespace Indexed

variable (indexed : registry.Indexed)

include indexed

/-- At the place of a name there is a process with this name. -/
theorem exists_process
    {name : String}
    {place : Nat}
    (found : registry.place? name = some place) :
    ∃ process, registry.processes[place]? = some process ∧ process.name = name := by
  have here := (indexed name place).mp found
  rw [List.getElem?_map] at here
  exact Option.map_eq_some_iff.mp here

theorem place?_of_getElem?
    {process : Descriptor α}
    {place : Nat}
    (here : registry.processes[place]? = some process) :
    registry.place? process.name = some place := by
  rw [indexed, List.getElem?_map, here, Option.map_some]

theorem place?_eq_none_iff {name : String} :
    registry.place? name = none ↔ name ∉ registry.processes.map Descriptor.name := by
  rw [List.mem_iff_getElem?, Option.eq_none_iff_forall_ne_some, not_exists]
  exact forall_congr' fun place => not_congr (indexed name place)

/-- No two processes have one name, since one place is held for it. -/
theorem nodup_names : (registry.processes.map Descriptor.name).Nodup := by
  rw [List.nodup_iff_getElem?_ne_getElem?]
  intro first second before inside same
  have inside' := Nat.lt_trans before inside
  have foundFirst := (indexed _ first).mpr (List.getElem?_eq_getElem inside')
  have foundSecond := (indexed _ second).mpr (same ▸ List.getElem?_eq_getElem inside')
  exact Nat.ne_of_lt before (Option.some.inj (foundFirst.symm.trans foundSecond))

theorem process?_eq_some_iff
    {name : String}
    {process : Descriptor α} :
    registry.process? name = some process ↔
      process ∈ registry.processes ∧ process.name = name := by
  rw [process?, Option.bind_eq_some_iff]
  constructor
  · rintro ⟨place, found, here⟩
    rcases indexed.exists_process found with ⟨other, there, nameEq⟩
    cases here.symm.trans there
    exact ⟨List.mem_of_getElem? here, nameEq⟩
  · rintro ⟨member, rfl⟩
    rcases List.mem_iff_getElem?.mp member with ⟨place, here⟩
    exact ⟨place, indexed.place?_of_getElem? here, here⟩

/-- Looking a process up is searching for its name. -/
theorem process?_eq_find? (name : String) :
    registry.process? name =
      registry.processes.find? fun process => process.name = name := by
  cases found : registry.processes.find? fun process => process.name = name with
  | some process =>
      rw [indexed.process?_eq_some_iff]
      exact ⟨List.mem_of_find?_eq_some found, by simpa using List.find?_some found⟩
  | none =>
      rw [List.find?_eq_none] at found
      rw [Option.eq_none_iff_forall_ne_some]
      intro process looked
      rcases indexed.process?_eq_some_iff.mp looked with ⟨member, nameEq⟩
      exact found process member (decide_eq_true nameEq)

theorem isSome_process?_iff (name : String) :
    (registry.process? name).isSome = true ↔
      name ∈ registry.processes.map Descriptor.name := by
  rw [Option.isSome_iff_exists, List.mem_map]
  exact exists_congr fun process => indexed.process?_eq_some_iff

end Indexed

/-! ## Registering -/

section Registering

variable
    (indexed : registry.Indexed)
    (descriptor : Descriptor α)

/-- A process with a known name replaces the one at the place of the name. -/
theorem value_register_of_known
    {place : Nat}
    (known : registry.place? descriptor.name = some place) :
    (registry.register descriptor).value =
      { registry with processes := registry.processes.set place descriptor } := by
  rw [register, known]
  rfl

/-- A process with a new name is registered behind the others. -/
theorem value_register_of_unknown
    (unknown : registry.place? descriptor.name = none) :
    (registry.register descriptor).value =
      { registry with
        byName := (descriptor.name, registry.processes.length) :: registry.byName
        processes := registry.processes ++ [descriptor] } := by
  rw [register, unknown]
  rfl

theorem species_register :
    (registry.register descriptor).value.species = registry.species := by
  rw [register]
  split <;> rfl

include indexed

/-- A new name stands behind the others, and a known one where it stood. -/
theorem names_register :
    (registry.register descriptor).value.processes.map Descriptor.name =
      if descriptor.name ∈ registry.processes.map Descriptor.name then
        registry.processes.map Descriptor.name
      else
        registry.processes.map Descriptor.name ++ [descriptor.name] := by
  cases found : registry.place? descriptor.name with
  | none =>
      rw [value_register_of_unknown descriptor found, List.map_append,
        if_neg (indexed.place?_eq_none_iff.mp found)]
      rfl
  | some place =>
      have here := (indexed _ place).mp found
      rw [value_register_of_known descriptor found, List.map_set,
        if_pos (List.mem_of_getElem? here)]
      rcases List.getElem?_eq_some_iff.mp here with ⟨inside, nameEq⟩
      rw [← nameEq]
      exact List.set_getElem_self inside

theorem Indexed.register : (registry.register descriptor).value.Indexed := by
  intro name place
  rw [names_register indexed]
  cases found : registry.place? descriptor.name with
  | some known =>
      rw [value_register_of_known descriptor found,
        if_pos (List.mem_of_getElem? ((indexed _ known).mp found))]
      exact indexed name place
  | none =>
      have new := indexed.place?_eq_none_iff.mp found
      rw [value_register_of_unknown descriptor found, if_neg new, place?,
        List.lookup_cons]
      rw [getElem?_concat_eq_some_iff, List.length_map]
      by_cases same : name = descriptor.name
      · rw [same, beq_self_eq_true, Option.some.injEq, eq_comm]
        exact
          ⟨fun last => Or.inr ⟨last, rfl⟩,
            fun here =>
              here.elim (fun early => (new (List.mem_of_getElem? early)).elim)
                And.left⟩
      · rw [beq_false_of_ne same, or_iff_left fun last => same last.2.symm]
        exact indexed name place

/-- A registered process is found under its name, and the others as before. -/
theorem process?_register (name : String) :
    (registry.register descriptor).value.process? name =
      if descriptor.name = name then some descriptor else registry.process? name := by
  cases found : registry.place? descriptor.name with
  | some known =>
      rw [value_register_of_known descriptor found, process?, process?]
      change
        ((registry.place? name).bind fun place =>
            (registry.processes.set known descriptor)[place]?) =
          _
      rcases indexed.exists_process found with ⟨earlier, here, _⟩
      have inside := (List.getElem?_eq_some_iff.mp here).1
      split_ifs with wanted
      · rw [← wanted, found, Option.bind_some, List.getElem?_set_self inside]
      · cases other : registry.place? name with
        | none => rfl
        | some place =>
            have different : known ≠ place := by
              rintro rfl
              rcases indexed.exists_process other with ⟨process, there, nameEq⟩
              cases here.symm.trans there
              rw [indexed, List.getElem?_map, here, Option.map_some,
                Option.some.injEq] at found
              exact wanted (found.symm.trans nameEq)
            rw [Option.bind_some, Option.bind_some, List.getElem?_set_ne different]
  | none =>
      rw [value_register_of_unknown descriptor found, process?, process?, place?,
        List.lookup_cons]
      split_ifs with wanted
      · rw [wanted, beq_self_eq_true, Option.bind_some, List.getElem?_concat_length]
      · rw [beq_false_of_ne (Ne.symm wanted)]
        change
          ((registry.place? name).bind fun place =>
              (registry.processes ++ [descriptor])[place]?) =
            _
        cases other : registry.place? name with
        | none => rfl
        | some place =>
            rcases indexed.exists_process other with ⟨process, there, _⟩
            rw [Option.bind_some, Option.bind_some,
              List.getElem?_append_left (List.getElem?_eq_some_iff.mp there).1]

/-- Registering replaces the process with the name, or adds one to the others. -/
theorem processes_register :
    (registry.register descriptor).value.processes =
      if descriptor.name ∈ registry.processes.map Descriptor.name then
        registry.processes.map fun process =>
          if process.name = descriptor.name then descriptor else process
      else
        registry.processes ++ [descriptor] := by
  cases found : registry.place? descriptor.name with
  | none =>
      rw [value_register_of_unknown descriptor found,
        if_neg (indexed.place?_eq_none_iff.mp found)]
  | some known =>
      rw [value_register_of_known descriptor found,
        if_pos (List.mem_of_getElem? ((indexed _ known).mp found))]
      rcases indexed.exists_process found with ⟨earlier, here, nameEq⟩
      have inside := (List.getElem?_eq_some_iff.mp here).1
      refine List.ext_getElem? fun place => ?_
      rw [List.getElem?_map]
      by_cases same : known = place
      · rw [← same, List.getElem?_set_self inside, here, Option.map_some,
          if_pos nameEq]
      · rw [List.getElem?_set_ne same]
        cases there : registry.processes[place]? with
        | none => rfl
        | some process =>
            rw [Option.map_some, if_neg]
            intro other
            have again := indexed.place?_of_getElem? there
            rw [other, found] at again
            exact same (Option.some.inj again)

end Registering

end SurfaceKinetics.Registry
