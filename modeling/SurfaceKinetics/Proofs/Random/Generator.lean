import Mathlib.Data.List.Perm.Basic
import SurfaceKinetics.Random.Source

/-!
# Generators

Drawing from a list relies on one property of the numbers that it is given: a number
that is asked for below a bound is below it.  A generator is a source of numbers with
this property, and drawing is described here for all of them: an element that is taken
and those that are left are a rearrangement of the list, nothing can be taken only from
the empty list, and taking until nothing is left yields all elements in some order.
-/

namespace SurfaceKinetics

variable {β : Type}

/-! ## Elements of a list -/

namespace RandomSource

/-- Removing an element leaves the others. -/
theorem cons_removeAt_perm
    {items : List β}
    {place : Nat}
    (inside : place < items.length) :
    (items[place] :: removeAt items place).Perm items := by
  have nonempty : items ≠ [] := List.ne_nil_of_length_pos (by omega)
  obtain ⟨init, last, rfl⟩ : ∃ init last, items = init ++ [last] :=
    ⟨_, _, (List.dropLast_concat_getLast nonempty).symm⟩
  have removed :
      removeAt (init ++ [last]) place =
        ((init ++ [last]).set place last).dropLast := by
    simp [removeAt]
  rw [removed]
  by_cases early : place < init.length
  · rw [List.getElem_append_left early, List.set_append_left place last early,
      List.dropLast_concat]
    calc
      (init[place] :: init.set place last).Perm
          (init[place] :: last :: init.eraseIdx place) :=
        (List.set_perm_cons_eraseIdx early last).cons _
      List.Perm _ (last :: init[place] :: init.eraseIdx place) :=
        List.Perm.swap ..
      List.Perm _ (last :: init) :=
        (List.getElem_cons_eraseIdx_perm early).cons last
      List.Perm _ (init ++ [last]) :=
        (List.perm_append_singleton last init).symm
  · have final : place = init.length := by
      rw [List.length_append, List.length_singleton] at inside
      omega
    subst final
    rw [List.getElem_concat_length rfl, List.set_append_right _ _ (Nat.le_refl _),
      Nat.sub_self, List.set_cons_zero, List.dropLast_concat]
    exact (List.perm_append_singleton last init).symm

/-- Some elements of a list, each of them at most as often as the list has it. -/
def Drawn (count : Nat) (items chosen : List β) : Prop :=
  chosen.length = count ∧ ∃ rest, (chosen ++ rest).Perm items

theorem Drawn.subset
    {count : Nat}
    {items chosen : List β}
    (drawn : Drawn count items chosen) :
    chosen ⊆ items := by
  rcases drawn with ⟨_, rest, perm⟩
  exact fun _ member => perm.subset (List.mem_append_left rest member)

theorem Drawn.nodup
    {count : Nat}
    {items chosen : List β}
    (drawn : Drawn count items chosen)
    (nodup : items.Nodup) :
    chosen.Nodup := by
  rcases drawn with ⟨_, rest, perm⟩
  exact (List.nodup_append.mp (perm.nodup_iff.mpr nodup)).1

theorem Drawn.length_le
    {count : Nat}
    {items chosen : List β}
    (drawn : Drawn count items chosen) :
    count ≤ items.length := by
  rcases drawn with ⟨rfl, rest, perm⟩
  rw [← perm.length_eq, List.length_append]
  exact Nat.le_add_right _ _

end RandomSource

/-! ## Drawing with a generator -/

/-- A source of whole numbers that are below the bounds asked for. -/
structure Generator (σ : Type) where
  below : Nat → StateM σ Nat
  below_lt :
    ∀ {bound : Nat}, 0 < bound → ∀ state, ((below bound).run state).1 < bound

namespace Generator

open RandomSource (removeAt cons_removeAt_perm Drawn)

variable {σ : Type} (generator : Generator σ)

/-- The place of an element in a list of some length. -/
def index (length : Nat) : StateM σ (Option Nat) :=
  match length with
  | 0 => pure none
  | 1 => pure (some 0)
  | length => some <$> generator.below length

/-- An element of a list and the other elements. -/
def take (items : List β) : StateM σ (Option (β × List β)) := do
  match ← generator.index items.length with
  | none => pure none
  | some place =>
    pure (items[place]?.map fun item => (item, removeAt items place))

/-- Several elements; fails with the number of those drawn when they run out. -/
def takeMany : Nat → Nat → List β → StateM σ (Except Nat (List β))
  | 0, _, _ => pure (.ok [])
  | count + 1, drawn, items => do
    match ← generator.take items with
    | none => pure (.error drawn)
    | some (item, rest) =>
      let others ← takeMany count (drawn + 1) rest
      pure (others.map (item :: ·))

/-- An index of a list that is not empty is a place in the list. -/
theorem exists_index
    {length : Nat}
    (lengthPos : 0 < length)
    (state : σ) :
    ∃ place after,
      (generator.index length).run state = (some place, after) ∧
        place < length := by
  match length with
  | 1 => exact ⟨0, state, rfl, Nat.one_pos⟩
  | length + 2 => exact ⟨_, _, rfl, generator.below_lt lengthPos state⟩

/-- From a list that is not empty an element is taken, and the others are left. -/
theorem exists_take
    {items : List β}
    (nonempty : items ≠ [])
    (state : σ) :
    ∃ item rest after,
      (generator.take items).run state = (some (item, rest), after) ∧
        (item :: rest).Perm items := by
  rcases generator.exists_index (List.length_pos_iff.mpr nonempty) state with
    ⟨place, after, indexed, inside⟩
  refine ⟨items[place], removeAt items place, after, ?_, cons_removeAt_perm inside⟩
  rw [take, StateT.run_bind, indexed]
  show (items[place]?.map _, after) = _
  rw [List.getElem?_eq_getElem inside, Option.map_some]

/-- Only from the empty list can nothing be taken. -/
theorem take_eq_none_iff (items : List β) (state : σ) :
    ((generator.take items).run state).1 = none ↔ items = [] := by
  constructor
  · intro nothing
    by_contra nonempty
    rcases generator.exists_take nonempty state with ⟨item, rest, after, taken, _⟩
    rw [taken] at nothing
    cases nothing
  · rintro rfl
    rfl

/-- An element that is taken and what is left are a rearrangement of the list. -/
theorem take_perm
    {items rest : List β}
    {item : β}
    {state : σ}
    (taken : ((generator.take items).run state).1 = some (item, rest)) :
    (item :: rest).Perm items := by
  have nonempty : items ≠ [] := by
    intro empty
    rw [(generator.take_eq_none_iff items state).mpr empty] at taken
    cases taken
  rcases generator.exists_take nonempty state with ⟨_, _, after, found, perm⟩
  rw [found] at taken
  cases taken
  exact perm

/-- Once an element is taken the others are drawn from what is left. -/
theorem run_takeMany_succ
    {items rest : List β}
    {item : β}
    {state between : σ}
    (taken : (generator.take items).run state = (some (item, rest), between))
    (count drawn : Nat) :
    (generator.takeMany (count + 1) drawn items).run state =
      Prod.map (Except.map (item :: ·)) id
        ((generator.takeMany count (drawn + 1) rest).run between) := by
  rw [takeMany, StateT.run_bind, taken]
  rfl

/-- A draw fails exactly when the elements run out, after all were drawn. -/
theorem takeMany_drawn (count drawn : Nat) (items : List β) (state : σ) :
    match ((generator.takeMany count drawn items).run state).1 with
    | .error found => items.length < count ∧ found = drawn + items.length
    | .ok chosen => Drawn count items chosen := by
  induction count generalizing drawn items state with
  | zero => exact ⟨rfl, items, .refl items⟩
  | succ count induction =>
      by_cases empty : items = []
      · subst empty
        exact ⟨Nat.succ_pos count, rfl⟩
      · rcases generator.exists_take empty state with
          ⟨item, rest, between, taken, perm⟩
        have lengthEq : rest.length + 1 = items.length := perm.length_eq
        have remaining := induction (drawn + 1) rest between
        rw [generator.run_takeMany_succ taken]
        rcases others :
            (generator.takeMany count (drawn + 1) rest).run between with
          ⟨found | chosen, after⟩
        · rw [others] at remaining
          rcases remaining with ⟨short, foundEq⟩
          exact ⟨by omega, by omega⟩
        · rw [others] at remaining
          rcases remaining with ⟨chosenLength, left, leftPerm⟩
          refine ⟨congrArg Nat.succ chosenLength, left, ?_⟩
          exact (leftPerm.cons item).trans perm

/-! ## Taking all elements -/

theorem length_lt_of_take
    {items rest : List β}
    {item : β}
    {state after : σ}
    (taken : (generator.take items).run state = (some (item, rest), after)) :
    rest.length < items.length := by
  have perm := generator.take_perm (congrArg Prod.fst taken)
  rw [← perm.length_eq]
  exact Nat.lt_succ_self rest.length

/-- The elements of a list in the order in which they are taken until none is left. -/
def takeAll (items : List β) (state : σ) : List β × σ :=
  match taken : (generator.take items).run state with
  | (none, after) => ([], after)
  | (some (item, rest), between) =>
    have := generator.length_lt_of_take taken
    let (others, after) := takeAll rest between
    (item :: others, after)
termination_by items.length

/-- Taking until nothing is left rearranges a list. -/
theorem takeAll_perm (items : List β) (state : σ) :
    (generator.takeAll items state).1.Perm items := by
  fun_induction takeAll with
  | case1 items state after nothing =>
      have empty : items = [] :=
        (generator.take_eq_none_iff items state).mp (congrArg Prod.fst nothing)
      rw [empty]
  | case2 items state item rest between taken shorter others after remaining
      induction =>
      have perm := generator.take_perm (congrArg Prod.fst taken)
      rw [remaining] at induction
      exact (induction.cons item).trans perm

end Generator

end SurfaceKinetics
