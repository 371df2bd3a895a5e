import SurfaceKinetics.Decimal.Binary64
import SurfaceKinetics.Note

/-!
# Numbers of 32 bits

Heights and coefficients are kept in 32 bits with sign.  The definitions of the library
compute with whole numbers; beside each of those whose numbers are kept in 32 bits there
is a checked one, with a question mark behind its name.  It takes the same steps and
looks at every number on the way: when one of them does not fit, there is no result, and
the program stops.
-/

namespace SurfaceKinetics

/-- The greatest whole number of 32 bits with sign. -/
def greatestShort : Int := twoTo 31 - 1

/-- The least whole number of 32 bits with sign. -/
def leastShort : Int := -twoTo 31

/-- A number fits into 32 bits with sign. -/
def IsShort (value : Int) : Prop := leastShort ≤ value ∧ value ≤ greatestShort

instance (value : Int) : Decidable (IsShort value) :=
  inferInstanceAs (Decidable (_ ∧ _))

theorem isShort_iff {value : Int} :
    IsShort value ↔ -2147483648 ≤ value ∧ value ≤ 2147483647 :=
  Iff.rfl

/-- A number that has been computed, if it fits. -/
def short? (value : Int) : Option Int := if IsShort value then some value else none

@[simp]
theorem short?_eq_some_iff {value result : Int} :
    short? value = some result ↔ IsShort value ∧ value = result := by
  rw [short?, Option.ite_none_right_eq_some, Option.some.injEq]

/-- Computations that make notes, and that stop at a number that does not fit. -/
abbrev Checked : Type → Type := OptionT Noted

namespace Checked

variable {β γ : Type}

/-- A result, or the end of a computation without one. -/
def ofOption (result? : Option β) : Checked β := OptionT.mk (pure result?)

/-- The result of a computation, if it has not stopped. -/
def value? (computation : Checked β) : Option β := computation.run.value

@[simp]
theorem value?_ofOption (result? : Option β) : (ofOption result?).value? = result? :=
  rfl

@[simp]
theorem value?_pure (result : β) : (pure result : Checked β).value? = some result :=
  rfl

@[simp]
theorem value?_lift (computation : Noted β) :
    (liftM computation : Checked β).value? = some computation.value :=
  rfl

@[simp]
theorem value?_bind (first : Checked β) (next : β → Checked γ) :
    (first >>= next).value? = first.value?.bind fun result => (next result).value? := by
  rw [value?, value?, OptionT.run_bind, Option.elimM, Noted.value_bind]
  cases first.run.value <;> rfl

@[simp]
theorem value?_map (function : β → γ) (computation : Checked β) :
    (function <$> computation).value? = computation.value?.map function := by
  change (computation >>= fun result => pure (function result)).value? = _
  rw [value?_bind]
  cases computation.value? <;> rfl

end Checked

end SurfaceKinetics
