import SurfaceKinetics.Proofs.Quantity.Exact

/-!
# Positive sums

A sum that starts from nothing stays nothing until a positive term comes, and is
positive from then on.  This is all that the total of positive rates needs, and
it holds with rounding as well as without.
-/

namespace SurfaceKinetics

/-- Quantities of which positive ones add up to positive ones. -/
class PositiveSums (α : Type) [Quantity α] : Prop where
  not_le_zero {value : α} : Quantity.zero < value → ¬ value ≤ Quantity.zero
  nothing_add_nothing :
    (Quantity.emptySum : α) + Quantity.emptySum = Quantity.emptySum
  nothing_add {value : α} :
    Quantity.zero < value → Quantity.zero < Quantity.emptySum + value
  add_nothing {value : α} :
    Quantity.zero < value → Quantity.zero < value + Quantity.emptySum
  add_pos {first second : α} :
    Quantity.zero < first →
      Quantity.zero < second → Quantity.zero < first + second

instance {α : Type} [ExactQuantity α] : PositiveSums α where
  not_le_zero positive := not_le_of_gt positive
  nothing_add_nothing := by rw [ExactQuantity.emptySum_eq, add_zero]
  nothing_add positive := by
    rw [ExactQuantity.emptySum_eq, zero_add]
    exact positive
  add_nothing positive := by
    rw [ExactQuantity.emptySum_eq, add_zero]
    exact positive
  add_pos := by
    intro first second firstPositive secondPositive
    rw [Quantity.zero_eq] at firstPositive secondPositive ⊢
    exact add_pos firstPositive secondPositive

namespace Quantity

variable {α : Type} [Quantity α]

/-- A quantity is nothing or positive. -/
def Accrued (value : α) : Prop :=
  value = emptySum ∨ zero < value

variable [PositiveSums α]

theorem Accrued.add_pos
    {first second : α}
    (firstAccrued : Accrued first)
    (positive : zero < second) :
    zero < first + second := by
  rcases firstAccrued with rfl | firstPositive
  · exact PositiveSums.nothing_add positive
  · exact PositiveSums.add_pos firstPositive positive

theorem pos_add_accrued
    {first second : α}
    (positive : zero < first)
    (secondAccrued : Accrued second) :
    zero < first + second := by
  rcases secondAccrued with rfl | secondPositive
  · exact PositiveSums.add_nothing positive
  · exact PositiveSums.add_pos positive secondPositive

theorem Accrued.add
    {first second : α}
    (firstAccrued : Accrued first)
    (secondAccrued : Accrued second) :
    Accrued (first + second) := by
  rcases firstAccrued with rfl | firstPositive
  · rcases secondAccrued with rfl | secondPositive
    · exact Or.inl PositiveSums.nothing_add_nothing
    · exact Or.inr (PositiveSums.nothing_add secondPositive)
  · exact Or.inr (pos_add_accrued firstPositive secondAccrued)

section Terms

variable
    {terms : List α}
    (accrued : ∀ term ∈ terms, Accrued term)

include accrued

theorem accrued_foldl {start : α} (started : Accrued start) :
    Accrued (terms.foldl (· + ·) start) := by
  induction terms generalizing start with
  | nil => exact started
  | cons first rest induction =>
      rcases List.forall_mem_cons.mp accrued with ⟨here, there⟩
      exact induction there (started.add here)

theorem foldl_pos {start : α} (positive : zero < start) :
    zero < terms.foldl (· + ·) start := by
  induction terms generalizing start with
  | nil => exact positive
  | cons first rest induction =>
      rcases List.forall_mem_cons.mp accrued with ⟨here, there⟩
      exact induction there (pos_add_accrued positive here)

theorem accrued_sum : Accrued (sum terms) :=
  accrued_foldl accrued (Or.inl rfl)

/-- One positive term makes a sum positive. -/
theorem sum_pos {term : α} (member : term ∈ terms) (positive : zero < term) :
    zero < sum terms := by
  have folded :
      ∀ start : α,
        Accrued start → zero < terms.foldl (· + ·) start := by
    induction terms with
    | nil => cases member
    | cons first rest induction =>
        intro start started
        rcases List.forall_mem_cons.mp accrued with ⟨here, there⟩
        rcases List.mem_cons.mp member with rfl | later
        · exact foldl_pos there (started.add_pos positive)
        · exact induction there later _ (started.add here)
  exact folded _ (Or.inl rfl)

end Terms

end Quantity

end SurfaceKinetics
