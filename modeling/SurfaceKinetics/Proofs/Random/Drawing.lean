import SurfaceKinetics.Proofs.Random.Generator

/-!
# Drawing without replacement

Whatever a random source yields, a number below a bound is below the bound.  So it
draws from lists as a generator does: elements drawn from a list are, together with
the elements left, a rearrangement of the list, and a draw of several elements
succeeds exactly when the list holds enough of them.

`Surely action property` says that a property holds of the value of an action
for every source.
-/

namespace SurfaceKinetics.RandomSource

variable {β γ : Type}

/-- A property holds of the value of an action for every source. -/
def Surely (action : StateM RandomSource β) (property : β → Prop) : Prop :=
  ∀ source, property (action.run source).1

theorem Surely.pure
    {property : β → Prop}
    {value : β}
    (holds : property value) :
    Surely (Pure.pure value) property :=
  fun _ => holds

theorem Surely.bind
    {action : StateM RandomSource β}
    {next : β → StateM RandomSource γ}
    {between : β → Prop}
    {property : γ → Prop}
    (first : Surely action between)
    (second : ∀ value, between value → Surely (next value) property) :
    Surely (action >>= next) property :=
  fun source => second _ (first source) _

theorem Surely.map
    {action : StateM RandomSource β}
    {function : β → γ}
    {property : γ → Prop}
    (holds : Surely action fun value => property (function value)) :
    Surely (function <$> action) property :=
  holds

theorem Surely.mono
    {action : StateM RandomSource β}
    {property weaker : β → Prop}
    (holds : Surely action property)
    (implied : ∀ value, property value → weaker value) :
    Surely action weaker :=
  fun source => implied _ (holds source)

theorem surely_true (action : StateM RandomSource β) :
    Surely action fun _ => True :=
  fun _ => True.intro

/-! ## Whole numbers -/

/-- The high half of the product of a word and a bound is below the bound. -/
theorem word_mul_div_lt
    (word : UInt64)
    {bound : Nat}
    (boundPos : 0 < bound) :
    word.toNat * bound / twoTo 64 < bound := by
  have wordBelow : word.toNat < twoTo 64 := word.toNat_lt
  rw [Nat.div_lt_iff_lt_mul (Nat.zero_lt_of_lt wordBelow),
    Nat.mul_comm bound]
  exact Nat.mul_lt_mul_of_pos_right wordBelow boundPos

theorem below_lt
    {bound : Nat}
    (boundPos : 0 < bound)
    (refusals : Nat) :
    Surely (below bound refusals) (· < bound) := by
  induction refusals with
  | zero =>
      rw [below]
      refine (surely_true word).bind ?_
      intro word _
      exact Surely.pure (word_mul_div_lt word boundPos)
  | succ refusals induction =>
      rw [below]
      refine (surely_true word).bind ?_
      intro word _
      dsimp only
      split
      · exact Surely.pure (word_mul_div_lt word boundPos)
      · exact induction

/-! ## Elements -/

/-- The generator of a random source. -/
def generator : Generator RandomSource where
  below bound := below bound refusals
  below_lt bound_pos := below_lt bound_pos refusals

theorem index_eq (length : Nat) : index length = generator.index length :=
  match length with
  | 0 => rfl
  | 1 => rfl
  | _ + 2 => rfl

theorem take_eq (items : List β) : take items = generator.take items := by
  rw [take, index_eq]
  rfl

/-- A random source draws as its generator does. -/
theorem takeMany_eq (count drawn : Nat) (items : List β) :
    takeMany count drawn items = generator.takeMany count drawn items := by
  induction count generalizing drawn items with
  | zero => rfl
  | succ count induction =>
      rw [takeMany, take_eq]
      simp only [induction]
      rfl

/-- A draw fails exactly when the elements run out, after all were drawn. -/
theorem takeMany_drawn (count drawn : Nat) (items : List β) :
    Surely (takeMany count drawn items) fun outcome =>
      match outcome with
      | .error found => items.length < count ∧ found = drawn + items.length
      | .ok chosen => Drawn count items chosen := by
  rw [takeMany_eq]
  exact generator.takeMany_drawn count drawn items

end SurfaceKinetics.RandomSource
