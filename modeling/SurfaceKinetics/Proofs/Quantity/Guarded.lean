import SurfaceKinetics.Proofs.Quantity.Ordered

/-!
# Guarded quantities

A guarded quantity is a quantity, or undefined where an operation was applied
outside its domain: where a divisor was zero, or where the root or the logarithm
of a number was taken that is not positive.  What is computed from something
undefined is undefined.

Guarded quantities are quantities, so all that is written for quantities can be
computed with them.  A computation that has a defined result has not left the
domain of any operation on its way.
-/

namespace SurfaceKinetics

/-- A quantity, unless it was computed outside the domain of an operation. -/
inductive Guarded (α : Type) where
  | defined (value : α)
  | undefined

namespace Guarded

variable {α : Type}

/-- Goes on with a quantity that is defined. -/
def bind (guarded : Guarded α) (next : α → Guarded α) : Guarded α :=
  match guarded with
  | defined value => next value
  | undefined => undefined

/-- A comparison is defined, and it holds. -/
def Compares (relation : α → α → Prop) : Guarded α → Guarded α → Prop
  | defined left, defined right => relation left right
  | _, _ => False

instance
    (relation : α → α → Prop)
    [DecidableRel relation]
    (left right : Guarded α) :
    Decidable (Compares relation left right) :=
  match left, right with
  | defined left, defined right =>
    inferInstanceAs (Decidable (relation left right))
  | defined _, undefined => isFalse id
  | undefined, _ => isFalse id

variable [Quantity α]

/-- The quotient by a divisor that is not zero. -/
def quotient (dividend divisor : α) : Guarded α :=
  if Quantity.zero < divisor ∨ divisor < Quantity.zero then
    defined (dividend / divisor)
  else
    undefined

/-- A function of positive quantities. -/
def ofPositive (function : α → α) (value : α) : Guarded α :=
  if Quantity.zero < value then defined (function value) else undefined

instance : Quantity (Guarded α) where
  add left right :=
    left.bind fun left => right.bind fun right => defined (left + right)
  sub left right :=
    left.bind fun left => right.bind fun right => defined (left - right)
  mul left right :=
    left.bind fun left => right.bind fun right => defined (left * right)
  div left right := left.bind fun left => right.bind (quotient left)
  neg value := value.bind fun value => defined (-value)
  lt := Compares (· < ·)
  le := Compares (· ≤ ·)
  decidableLT left right :=
    inferInstanceAs (Decidable (Compares (· < ·) left right))
  decidableLE left right :=
    inferInstanceAs (Decidable (Compares (· ≤ ·) left right))
  emptySum := defined Quantity.emptySum
  ofInt number := defined (Quantity.ofInt number)
  ofDecimal literal := defined (Quantity.ofDecimal literal)
  exp value := value.bind fun value => defined (Quantity.exp value)
  ln value := value.bind (ofPositive Quantity.ln)
  sqrt value := value.bind (ofPositive Quantity.sqrt)
  floor value := value.bind fun value => defined (Quantity.floor value)
  circleRatio := defined Quantity.circleRatio
  isFinite
    | defined value => Quantity.isFinite value
    | undefined => false
  isUndefined
    | defined value => Quantity.isUndefined value
    | undefined => true
  write style
    | defined value => Quantity.write style value
    | undefined => ""

/-! ## Defined quantities -/

section Defined

variable (left right : α)

@[simp]
theorem defined_sub : defined left - defined right = defined (left - right) :=
  rfl

@[simp]
theorem defined_mul : defined left * defined right = defined (left * right) :=
  rfl

@[simp]
theorem neg_defined : -defined left = defined (-left) := rfl

@[simp]
theorem exp_defined : Quantity.exp (defined left) = defined (Quantity.exp left) :=
  rfl

end Defined

@[simp]
theorem ofNat_eq (number : Nat) :
    (Quantity.ofNat number : Guarded α) = defined (Quantity.ofNat number) :=
  rfl

@[simp]
theorem circleRatio_eq :
    (Quantity.circleRatio : Guarded α) = defined Quantity.circleRatio :=
  rfl

@[simp]
theorem boltzmann_eq :
    (Constants.boltzmann : Guarded α) = defined Constants.boltzmann :=
  rfl

end Guarded

/-! ## Domains in an ordered field -/

namespace Guarded

variable {α : Type} [OrderedQuantity α]

/-- A quotient is defined just when its divisor is not zero. -/
theorem defined_div_eq_iff {dividend divisor result : α} :
    defined dividend / defined divisor = defined result ↔
      divisor ≠ 0 ∧ dividend / divisor = result := by
  have unfolded :
      defined dividend / defined divisor = quotient dividend divisor := rfl
  have nonzeroIff : 0 < divisor ∨ divisor < 0 ↔ divisor ≠ 0 :=
    or_comm.trans lt_or_lt_iff_ne
  rw [unfolded, quotient, Quantity.zero_eq, ← nonzeroIff]
  split_ifs with nonzero
  · rw [defined.injEq, and_iff_right nonzero]
  · exact iff_of_false nofun fun both => nonzero both.1

theorem defined_div {divisor : α} (nonzero : divisor ≠ 0) (dividend : α) :
    defined dividend / defined divisor = defined (dividend / divisor) :=
  defined_div_eq_iff.mpr ⟨nonzero, rfl⟩

/-- A root is defined just when it is one of a positive number. -/
theorem sqrt_defined_eq_iff {value result : α} :
    Quantity.sqrt (defined value) = defined result ↔
      0 < value ∧ Quantity.sqrt value = result := by
  have unfolded :
      Quantity.sqrt (defined value) = ofPositive Quantity.sqrt value := rfl
  rw [unfolded, ofPositive, Quantity.zero_eq]
  split_ifs with positive
  · rw [defined.injEq, and_iff_right positive]
  · exact iff_of_false nofun fun both => positive both.1

theorem sqrt_defined {value : α} (positive : 0 < value) :
    Quantity.sqrt (defined value) = defined (Quantity.sqrt value) :=
  sqrt_defined_eq_iff.mpr ⟨positive, rfl⟩

@[simp]
theorem perParticle_defined (molar : α) :
    Constants.perParticle (defined molar) =
      defined (Constants.perParticle molar) :=
  defined_div Constants.avogadro_pos.ne' molar

end Guarded

end SurfaceKinetics
