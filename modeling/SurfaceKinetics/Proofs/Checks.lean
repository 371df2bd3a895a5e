import Mathlib.Data.List.Basic
import SurfaceKinetics.Short

/-!
# Checked computations

A checked computation takes the steps of an exact one and stops at the first number
that does not fit.  Two things describe it: the exact result, and what has to fit for
it.  Where this fits, the exact result is computed, and elsewhere there is none.  Both
parts of the description follow the steps of the computation.
-/

namespace SurfaceKinetics

/-- A computation has a result exactly where something fits, and then an exact one. -/
structure Checks {β : Type} (computed? : Option β) (fits : Prop) (result : β) :
    Prop where
  eq_some_iff : ∀ {value : β}, computed? = some value ↔ fits ∧ result = value

namespace Checks

variable
    {β γ : Type}
    {computed? : Option β}
    {fits : Prop}
    {result : β}

section Reading

variable (checks : Checks computed? fits result)

include checks

theorem eq_some (fitting : fits) : computed? = some result :=
  checks.eq_some_iff.mpr ⟨fitting, rfl⟩

theorem exists_iff : (∃ value, computed? = some value) ↔ fits := by
  constructor
  · rintro ⟨value, computed⟩
    exact (checks.eq_some_iff.mp computed).1
  · intro fitting
    exact ⟨result, checks.eq_some fitting⟩

theorem eq_ite [Decidable fits] :
    computed? = if fits then some result else none := by
  split
  · next fitting => exact checks.eq_some fitting
  · next unfit =>
      cases computed : computed? with
      | none => rfl
      | some value => exact absurd (checks.eq_some_iff.mp computed).1 unfit

theorem eq_none_iff : computed? = none ↔ ¬ fits := by
  rw [← checks.exists_iff, not_exists, Option.eq_none_iff_forall_ne_some]

/-- The same result under another name for what has to fit. -/
theorem congr {fits' : Prop} (same : fits ↔ fits') :
    Checks computed? fits' result where
  eq_some_iff := checks.eq_some_iff.trans (and_congr_left' same)

protected theorem map (next : β → γ) :
    Checks (computed?.map next) fits (next result) where
  eq_some_iff := by
    intro value
    rw [Option.map_eq_some_iff]
    constructor
    · rintro ⟨between, computed, rfl⟩
      rcases checks.eq_some_iff.mp computed with ⟨fitting, rfl⟩
      exact ⟨fitting, rfl⟩
    · rintro ⟨fitting, rfl⟩
      exact ⟨result, checks.eq_some fitting, rfl⟩

/-- A second computation goes on from the result of the first one. -/
protected theorem bind
    {next? : β → Option γ}
    {fits' : Prop}
    {result' : γ}
    (then_ : fits → Checks (next? result) fits' result') :
    Checks (computed?.bind next?) (fits ∧ fits') result' where
  eq_some_iff := by
    intro value
    rw [Option.bind_eq_some_iff]
    constructor
    · rintro ⟨between, computed, computed'⟩
      rcases checks.eq_some_iff.mp computed with ⟨fitting, rfl⟩
      rcases (then_ fitting).eq_some_iff.mp computed' with ⟨fitting', valueEq⟩
      exact ⟨⟨fitting, fitting'⟩, valueEq⟩
    · rintro ⟨⟨fitting, fitting'⟩, rfl⟩
      exact ⟨result, checks.eq_some fitting, (then_ fitting).eq_some fitting'⟩

end Reading

/-- A result with nothing to check. -/
protected theorem some (result : β) : Checks (some result) True result where
  eq_some_iff := by simp

/-- A computation that has stopped. -/
protected theorem none {fits : Prop} (unfit : ¬ fits) (result : β) :
    Checks none fits result where
  eq_some_iff := by simp [unfit]

theorem short (value : Int) : Checks (short? value) (IsShort value) value where
  eq_some_iff := short?_eq_some_iff

theorem short_add_one (value : Int) :
    Checks
      (do
        let previous ← short? value
        short? (previous + 1))
      (IsShort value ∧ IsShort (value + 1))
      (value + 1) :=
  (Checks.short value).bind fun _ => Checks.short (value + 1)

/-- What is computed for all elements of a list fits when it does for each of them. -/
protected theorem mapM
    {compute? : β → Option γ}
    {fits : β → Prop}
    {compute : β → γ}
    {elements : List β}
    (each :
      ∀ element ∈ elements,
        Checks (compute? element) (fits element) (compute element)) :
    Checks (elements.mapM compute?) (∀ element ∈ elements, fits element)
      (elements.map compute) := by
  induction elements with
  | nil => exact (Checks.some []).congr (by simp)
  | cons element elements induction =>
      rcases List.forall_mem_cons.mp each with ⟨first, others⟩
      rw [List.mapM_cons, List.map_cons]
      refine Checks.congr ?_ List.forall_mem_cons.symm
      refine first.bind fun _ => Checks.congr ?_ (and_iff_left trivial)
      exact (induction others).bind fun _ => Checks.some _

end Checks

end SurfaceKinetics
