import Mathlib.Algebra.Order.Field.Power
import Mathlib.Algebra.Order.Field.Rat
import Mathlib.Tactic.FieldSimp
import Mathlib.Tactic.Linarith
import Mathlib.Tactic.Positivity
import Mathlib.Tactic.Ring
import SurfaceKinetics.Decimal.Binary64

/-!
# Rounding to the nearest value

The binary64 numbers are the products of a significand of 53 binary places at most
and a power of two between the least and the greatest one.  A decimal literal is
rounded to the nearest of them, and where two are equally near to the one with the
even significand; a literal that would round to a number beyond the greatest one is
infinite.

A quotient is scaled by a power of two at which its whole part has 53 binary places,
or fewer at the least power.  Numbers with a smaller power are less than every number
that the scaled quotient can be rounded to, so the nearest number is a multiple of
the power, and rounding the scaled quotient to a whole number finds it.
-/

namespace SurfaceKinetics

/-! ## Nearest whole numbers -/

/-- A whole number is nearest to a number, and even when it is half away. -/
structure RoundsEven (number : ℚ) (whole : Nat) : Prop where
  close : |(whole : ℚ) - number| ≤ 1 / 2
  even : |(whole : ℚ) - number| = 1 / 2 → whole % 2 = 0

theorem roundsEven_roundHalfEven
    (numerator : Nat)
    {denominator : Nat}
    (denominatorPos : 0 < denominator) :
    RoundsEven (numerator / denominator)
      (roundHalfEven numerator denominator) := by
  have positive : (0 : ℚ) < denominator := Nat.cast_pos.mpr denominatorPos
  have quotientEq :
      (numerator : ℚ) / denominator =
        (numerator / denominator : Nat) +
          (numerator % denominator : Nat) / (denominator : ℚ) := by
    have split :
        (numerator : ℚ) =
          denominator * (numerator / denominator : Nat) +
            (numerator % denominator : Nat) := by
      exact_mod_cast (Nat.div_add_mod numerator denominator).symm
    field_simp
    exact split
  have restLt := Nat.mod_lt numerator denominatorPos
  rw [quotientEq, roundHalfEven]
  generalize numerator / denominator = whole
  generalize numerator % denominator = rest at restLt
  split_ifs with below above
  · have less : (rest : ℚ) / denominator < 1 / 2 := by
      rw [div_lt_iff₀ positive]
      have : (2 : ℚ) * rest < denominator := by exact_mod_cast below
      linarith
    have nonneg : (0 : ℚ) ≤ rest / denominator := by positivity
    have distanceEq :
        |(whole : ℚ) - (whole + rest / denominator)| = rest / denominator := by
      rw [sub_add_cancel_left, abs_neg, abs_of_nonneg nonneg]
    exact
      ⟨distanceEq.trans_le less.le,
        fun half => absurd (distanceEq.symm.trans half) less.ne⟩
  · have more : 1 / 2 < (rest : ℚ) / denominator := by
      rw [lt_div_iff₀ positive]
      have : (denominator : ℚ) < 2 * rest := by exact_mod_cast above
      linarith
    have less : (rest : ℚ) / denominator < 1 :=
      (div_lt_one positive).mpr (Nat.cast_lt.mpr restLt)
    have distanceEq :
        |((whole + 1 : Nat) : ℚ) - (whole + rest / denominator)| =
          1 - rest / denominator := by
      rw [Nat.cast_add_one, add_sub_add_left_eq_sub,
        abs_of_pos (sub_pos.mpr less)]
    refine ⟨distanceEq.trans_le (by linarith), fun half => ?_⟩
    rw [distanceEq] at half
    linarith
  · have half : (rest : ℚ) / denominator = 1 / 2 := by
      rw [div_eq_iff positive.ne']
      have : (2 : ℚ) * rest = denominator := by
        exact_mod_cast Nat.le_antisymm (Nat.not_lt.mp above) (Nat.not_lt.mp below)
      linarith
    rw [half]
    rcases Nat.mod_two_eq_zero_or_one whole with even | odd
    · rw [even, Nat.add_zero]
      exact ⟨by norm_num, fun _ => even⟩
    · rw [odd]
      exact ⟨by norm_num, fun _ => by omega⟩

/-- No other whole number is nearer, and only an even one has another as near. -/
theorem RoundsEven.nearest
    {number : ℚ}
    {whole : Nat}
    (rounds : RoundsEven number whole)
    (other : ℤ) :
    |(whole : ℚ) - number| ≤ |other - number| ∧
      (other ≠ whole → |other - number| = |(whole : ℚ) - number| →
        whole % 2 = 0) := by
  by_cases equal : other = whole
  · subst equal
    exact ⟨le_of_eq (by rw [Int.cast_natCast]), fun distinct => absurd rfl distinct⟩
  · have apart : (1 : ℚ) ≤ |(other : ℚ) - whole| := by
      have : 1 ≤ |other - whole| := Int.one_le_abs (sub_ne_zero.mpr equal)
      exact_mod_cast this
    have through :
        |(other : ℚ) - whole| ≤ |other - number| + |(whole : ℚ) - number| := by
      rw [abs_sub_comm (whole : ℚ) number]
      exact abs_sub_le _ _ _
    have close := rounds.close
    refine ⟨by linarith, fun _ same => rounds.even ?_⟩
    linarith

namespace Binary64

/-! ## Binary64 numbers -/

/-- A size with a sign. -/
def signed (negative : Bool) (size : ℚ) : ℚ := if negative then -size else size

/-- The numbers that finite values stand for. -/
def numbers : Set ℚ :=
  { number |
    ∃ (negative : Bool) (significand : Nat) (exponent : Int),
      significand < significandBound ∧
        leastExponent ≤ exponent ∧
          exponent ≤ greatestExponent ∧
            number = signed negative (significand * 2 ^ exponent) }

/-- Sizes from here on are too great for the finite values. -/
def overflow : ℚ := (2 ^ 53 - 1 / 2) * 2 ^ greatestExponent

/-- A value is what a number rounds to, which is given by its sign and size. -/
inductive Rounds (negative : Bool) (size : ℚ) : Binary64 → Prop where
  | infinite (beyond : overflow ≤ size) : Rounds negative size (.infinite negative)
  | finite
      {significand : Nat}
      {exponent : Int}
      (within : size < overflow)
      (bounded : significand < significandBound)
      (exponent_ge : leastExponent ≤ exponent)
      (exponent_le : exponent ≤ greatestExponent)
      (normal : significand = 0 ∨ 2 ^ 52 ≤ significand ∨ exponent = leastExponent)
      (nearest :
        ∀ other ∈ numbers,
          |signed negative (significand * 2 ^ exponent) - signed negative size| ≤
            |other - signed negative size|)
      (even :
        ∀ other ∈ numbers,
          other ≠ signed negative (significand * 2 ^ exponent) →
            |other - signed negative size| =
              |signed negative (significand * 2 ^ exponent) -
                signed negative size| →
              significand % 2 = 0) :
      Rounds negative size (.finite negative significand exponent)

theorem signed_signed (negative : Bool) (number : ℚ) :
    signed negative (signed negative number) = number := by
  cases negative
  · rfl
  · exact neg_neg number

theorem abs_signed_sub_signed (negative : Bool) (first second : ℚ) :
    |signed negative first - signed negative second| = |first - second| := by
  cases negative
  · rfl
  · exact (abs_sub_comm _ _).trans (congrArg _ (by simp [signed]; ring))

theorem abs_signed (negative : Bool) (number : ℚ) :
    |signed negative number| = |number| := by
  cases negative
  · rfl
  · exact abs_neg number

theorem signed_mem_numbers
    (negative : Bool)
    {number : ℚ}
    (member : number ∈ numbers) :
    signed negative number ∈ numbers := by
  rcases member with ⟨sign, significand, exponent, bounded, ge, le, rfl⟩
  refine ⟨xor negative sign, significand, exponent, bounded, ge, le, ?_⟩
  cases negative <;> cases sign <;> simp [signed]

/-! ## Scaling -/

/-- A size has 53 binary places before the point at a power of two, or fewer. -/
structure IsScale (size : ℚ) (exponent : Int) : Prop where
  exponent_ge : leastExponent ≤ exponent
  upper : size < 2 ^ 53 * 2 ^ exponent
  lower : exponent = leastExponent ∨ 2 ^ 52 * 2 ^ exponent ≤ size

theorem zpow_eq_div {base : ℚ} (nonzero : base ≠ 0) (exponent : Int) :
    base ^ exponent = base ^ exponent.toNat / base ^ (-exponent).toNat := by
  rw [← zpow_natCast, ← zpow_natCast, ← zpow_sub₀ nonzero,
    Int.toNat_sub_toNat_neg]

theorem scaledDown_snd_pos
    (numerator : Nat)
    {denominator : Nat}
    (denominatorPos : 0 < denominator)
    (exponent : Int) :
    0 < (scaledDown numerator denominator exponent).2 :=
  Nat.mul_pos denominatorPos (Nat.two_pow_pos _)

theorem scaledDown_div (numerator denominator : Nat) (exponent : Int) :
    ((scaledDown numerator denominator exponent).1 : ℚ) /
        (scaledDown numerator denominator exponent).2 =
      numerator / denominator / 2 ^ exponent := by
  rw [zpow_eq_div two_ne_zero, scaledDown, twoTo, twoTo]
  simp only [Nat.cast_mul, Nat.pow_eq, Nat.cast_pow, Nat.cast_ofNat]
  field_simp

/-- The places of numerator and denominator tell those of the quotient but for one. -/
theorem quotient_bounds
    {numerator denominator : Nat}
    (numeratorPos : 0 < numerator)
    (denominatorPos : 0 < denominator) :
    (2 : ℚ) ^ ((numerator.log2 : Int) - denominator.log2 - 1) ≤
        numerator / denominator ∧
      (numerator : ℚ) / denominator <
        2 ^ ((numerator.log2 : Int) - denominator.log2 + 1) := by
  have bounds {number : Nat} (numberPos : 0 < number) :
      (2 : ℚ) ^ (number.log2 : Int) ≤ number ∧
        (number : ℚ) < 2 ^ ((number.log2 : Int) + 1) := by
    have lower := Nat.log2_self_le numberPos.ne'
    have upper := @Nat.lt_log2_self number
    exact ⟨by exact_mod_cast lower, by exact_mod_cast upper⟩
  rcases bounds numeratorPos with ⟨above, below⟩
  rcases bounds denominatorPos with ⟨denominatorAbove, denominatorBelow⟩
  have positive : (0 : ℚ) < denominator := Nat.cast_pos.mpr denominatorPos
  constructor
  · rw [le_div_iff₀ positive]
    calc
      (2 : ℚ) ^ ((numerator.log2 : Int) - denominator.log2 - 1) * denominator ≤
          2 ^ ((numerator.log2 : Int) - denominator.log2 - 1) *
            2 ^ ((denominator.log2 : Int) + 1) :=
        mul_le_mul_of_nonneg_left denominatorBelow.le (by positivity)
      _ = 2 ^ (numerator.log2 : Int) := by
        rw [← zpow_add₀ two_ne_zero]
        congr 1
        omega
      _ ≤ numerator := above
  · rw [div_lt_iff₀ positive]
    calc
      (numerator : ℚ) < 2 ^ ((numerator.log2 : Int) + 1) := below
      _ = 2 ^ ((numerator.log2 : Int) - denominator.log2 + 1) *
            2 ^ (denominator.log2 : Int) := by
        rw [← zpow_add₀ two_ne_zero]
        congr 1
        omega
      _ ≤ 2 ^ ((numerator.log2 : Int) - denominator.log2 + 1) * denominator :=
        mul_le_mul_of_nonneg_left denominatorAbove (by positivity)

theorem cast_significandBound : (significandBound : ℚ) = 2 ^ 53 := by
  norm_num [significandBound, twoTo]

theorem div_lt_significandBound_iff
    (numerator : Nat)
    {denominator : Nat}
    (denominatorPos : 0 < denominator) :
    numerator / denominator < significandBound ↔
      (numerator : ℚ) / denominator < 2 ^ 53 := by
  rw [Nat.div_lt_iff_lt_mul denominatorPos,
    div_lt_iff₀ (Nat.cast_pos.mpr denominatorPos), ← cast_significandBound]
  exact_mod_cast Iff.rfl

/-- The power of a quotient is its scale. -/
theorem isScale_exponentOf
    {numerator denominator : Nat}
    (numeratorPos : 0 < numerator)
    (denominatorPos : 0 < denominator) :
    IsScale (numerator / denominator) (exponentOf numerator denominator) := by
  rcases quotient_bounds numeratorPos denominatorPos with ⟨lower, upper⟩
  rw [exponentOf]
  generalize estimateEq :
    max ((numerator.log2 : Int) - denominator.log2 - 53) leastExponent = estimate
  have powerPos : (0 : ℚ) < 2 ^ estimate := by positivity
  have fitsIff :=
    div_lt_significandBound_iff
      (scaledDown numerator denominator estimate).1
      (scaledDown_snd_pos numerator denominatorPos estimate)
  rw [scaledDown_div, div_lt_iff₀ powerPos] at fitsIff
  split_ifs with fits
  · refine ⟨estimateEq ▸ le_max_right _ _, fitsIff.mp fits, ?_⟩
    rcases eq_or_ne estimate leastExponent with least | greater
    · exact Or.inl least
    · have exactEq :
          estimate = (numerator.log2 : Int) - denominator.log2 - 53 := by
        omega
      have powerEq :
          (2 : ℚ) ^ 52 * 2 ^ estimate =
            2 ^ ((numerator.log2 : Int) - denominator.log2 - 1) := by
        rw [← zpow_natCast, ← zpow_add₀ two_ne_zero, exactEq]
        congr 1
        push_cast
        omega
      exact Or.inr (powerEq.trans_le lower)
  · have double : (2 : ℚ) ^ (estimate + 1) = 2 * 2 ^ estimate := by
      rw [zpow_add_one₀ two_ne_zero, mul_comm]
    have large : (2 : ℚ) ^ 53 * 2 ^ estimate ≤ numerator / denominator :=
      not_lt.mp (mt fitsIff.mpr fits)
    refine ⟨by omega, ?_, Or.inr ?_⟩
    · have powerLe :
          (2 : ℚ) ^ ((numerator.log2 : Int) - denominator.log2 + 1) ≤
            2 ^ 53 * 2 ^ (estimate + 1) := by
        rw [← zpow_natCast, ← zpow_add₀ two_ne_zero]
        exact zpow_le_zpow_right₀ one_le_two (by push_cast; omega)
      exact upper.trans_le powerLe
    · rw [double]
      linarith

/-! ## Nearest numbers -/

/-- A number is a multiple of a power of two, or its power is smaller. -/
theorem exists_multiple_or_lt
    {number : ℚ}
    (member : number ∈ numbers)
    (exponent : Int) :
    (∃ multiple : ℤ, number = multiple * 2 ^ exponent) ∨
      leastExponent < exponent ∧ number < 2 ^ 52 * 2 ^ exponent := by
  rcases member with ⟨negative, significand, power, bounded, ge, _, rfl⟩
  rcases Int.lt_or_le power exponent with below | above
  · right
    have powerLe : (2 : ℚ) ^ power ≤ 2 ^ (exponent - 1) :=
      zpow_le_zpow_right₀ one_le_two (by omega)
    have half : (2 : ℚ) ^ exponent = 2 * 2 ^ (exponent - 1) := by
      rw [zpow_sub_one₀ two_ne_zero]
      ring
    have powerPos : (0 : ℚ) < 2 ^ power := by positivity
    have less : (significand : ℚ) * 2 ^ power < 2 ^ 53 * 2 ^ power := by
      rw [← cast_significandBound]
      exact mul_lt_mul_of_pos_right (Nat.cast_lt.mpr bounded) powerPos
    have signedLe :
        signed negative ((significand : ℚ) * 2 ^ power) ≤
          significand * 2 ^ power := by
      have nonneg : (0 : ℚ) ≤ significand * 2 ^ power := by positivity
      cases negative
      · exact le_rfl
      · exact (neg_nonpos.mpr nonneg).trans nonneg
    refine ⟨by omega, signedLe.trans_lt ?_⟩
    linarith
  · left
    have powerEq :
        (2 : ℚ) ^ power = 2 ^ (power - exponent).toNat * 2 ^ exponent := by
      rw [← zpow_natCast, ← zpow_add₀ two_ne_zero]
      congr 1
      omega
    refine
      ⟨(if negative then -(significand : ℤ) else significand) *
          2 ^ (power - exponent).toNat, ?_⟩
    rw [powerEq, signed]
    cases negative with
    | false =>
        simp only [Bool.false_eq_true, if_false]
        push_cast
        ring
    | true =>
        simp only [if_true]
        push_cast
        ring

theorem abs_mul_zpow_sub (number size : ℚ) (exponent : Int) :
    |number * 2 ^ exponent - size| =
      |number - size / 2 ^ exponent| * 2 ^ exponent := by
  have powerPos : (0 : ℚ) < 2 ^ exponent := by positivity
  rw [← abs_of_pos powerPos, ← abs_mul, abs_of_pos powerPos, sub_mul,
    div_mul_cancel₀ _ powerPos.ne']

/-- A scaled size that is rounded to a whole number is rounded to the nearest number. -/
theorem IsScale.nearest
    {size : ℚ}
    {exponent : Int}
    (scale : IsScale size exponent)
    {whole : Nat}
    (rounds : RoundsEven (size / 2 ^ exponent) whole)
    {other : ℚ}
    (member : other ∈ numbers) :
    |(whole : ℚ) * 2 ^ exponent - size| ≤ |other - size| ∧
      (other ≠ whole * 2 ^ exponent →
        |other - size| = |(whole : ℚ) * 2 ^ exponent - size| →
          whole % 2 = 0) := by
  have powerPos : (0 : ℚ) < 2 ^ exponent := by positivity
  rcases exists_multiple_or_lt member exponent with
    ⟨multiple, rfl⟩ | ⟨greater, less⟩
  · rcases rounds.nearest multiple with ⟨nearer, tie⟩
    rw [abs_mul_zpow_sub, abs_mul_zpow_sub]
    constructor
    · exact mul_le_mul_of_nonneg_right nearer powerPos.le
    · intro distinct same
      refine tie ?_ (mul_right_cancel₀ powerPos.ne' same)
      rintro rfl
      exact distinct (by rw [Int.cast_natCast])
  · -- The least number with 53 places at the power lies between the two.
    have between : 2 ^ 52 * 2 ^ exponent ≤ size :=
      scale.lower.resolve_left greater.ne'
    have nearer := (rounds.nearest (2 ^ 52)).1
    have distanceLe :
        |(whole : ℚ) * 2 ^ exponent - size| ≤ |2 ^ 52 * 2 ^ exponent - size| := by
      rw [abs_mul_zpow_sub, abs_mul_zpow_sub (2 ^ 52)]
      exact mul_le_mul_of_nonneg_right (by exact_mod_cast nearer) powerPos.le
    have distanceLt :
        |(2 : ℚ) ^ 52 * 2 ^ exponent - size| < |other - size| := by
      rw [abs_sub_comm _ size, abs_sub_comm _ size,
        abs_of_nonneg (sub_nonneg.mpr between),
        abs_of_pos (sub_pos.mpr (less.trans_le between))]
      linarith
    have strictly := distanceLe.trans_lt distanceLt
    exact ⟨strictly.le, fun _ same => absurd same strictly.ne'⟩

section Scale

variable
    {size : ℚ}
    {exponent : Int}
    (scale : IsScale size exponent)
    {whole : Nat}
    (rounds : RoundsEven (size / 2 ^ exponent) whole)

include scale rounds

theorem IsScale.whole_le : whole ≤ significandBound := by
  have scaledLt : size / 2 ^ exponent < 2 ^ 53 :=
    (div_lt_iff₀ (by positivity)).mpr scale.upper
  have close := (abs_le.mp rounds.close).2
  have wholeLt : (whole : ℚ) < (significandBound + 1 : Nat) := by
    rw [Nat.cast_add_one, cast_significandBound]
    linarith
  exact Nat.le_of_lt_succ (Nat.cast_lt.mp wholeLt)

omit scale in
/-- A size is not rounded up to a further binary place if it is far enough below. -/
theorem lt_significandBound_iff :
    whole < significandBound ↔ size < (2 ^ 53 - 1 / 2) * 2 ^ exponent := by
  rw [← div_lt_iff₀ (by positivity : (0 : ℚ) < 2 ^ exponent)]
  rcases abs_le.mp rounds.close with ⟨lower, upper⟩
  constructor
  · intro less
    have wholeLe : (whole : ℚ) ≤ 2 ^ 53 - 1 := by
      rw [← cast_significandBound, le_sub_iff_add_le]
      exact_mod_cast Nat.succ_le_of_lt less
    refine lt_of_le_of_ne (by linarith) fun half => ?_
    -- Half a place below the bound is nearer to the bound, as it is even.
    have wholeEq : (whole : ℚ) + 1 = significandBound := by
      rw [cast_significandBound]
      linarith
    have odd : whole + 1 = significandBound := by exact_mod_cast wholeEq
    have even : whole % 2 = 0 := by
      refine rounds.even ?_
      rw [half, eq_sub_of_add_eq wholeEq, cast_significandBound]
      norm_num
    have boundEven : significandBound % 2 = 0 := by decide
    omega
  · intro less
    rw [← Nat.cast_lt (α := ℚ), cast_significandBound]
    linarith

theorem IsScale.normal : exponent = leastExponent ∨ 2 ^ 52 ≤ whole := by
  refine scale.lower.imp_right fun lower => ?_
  have scaledGe : 2 ^ 52 ≤ size / 2 ^ exponent :=
    (le_div_iff₀ (by positivity)).mpr lower
  have close := (abs_le.mp rounds.close).1
  have wholeGt : ((2 ^ 52 : Nat) : ℚ) < (whole + 1 : Nat) := by
    push_cast
    linarith
  exact Nat.le_of_lt_succ (Nat.cast_lt.mp wholeGt)

/-- A value of the number that a size is rounded to is what the size rounds to. -/
theorem IsScale.rounds_finite
    (negative : Bool)
    {significand : Nat}
    {power : Int}
    (numberEq : (significand : ℚ) * 2 ^ power = whole * 2 ^ exponent)
    (parity : whole % 2 = 0 → significand % 2 = 0)
    (within : size < overflow)
    (bounded : significand < significandBound)
    (powerGe : leastExponent ≤ power)
    (powerLe : power ≤ greatestExponent)
    (normal : significand = 0 ∨ 2 ^ 52 ≤ significand ∨ power = leastExponent) :
    Rounds negative size (.finite negative significand power) := by
  have distance (other : ℚ) :
      |other - signed negative size| = |signed negative other - size| := by
    rw [← abs_signed_sub_signed negative (signed negative other),
      signed_signed]
  refine .finite within bounded powerGe powerLe normal ?_ ?_
  · intro other member
    rw [abs_signed_sub_signed, distance, numberEq]
    exact (scale.nearest rounds (signed_mem_numbers negative member)).1
  · intro other member distinct same
    rw [abs_signed_sub_signed, distance, numberEq] at same
    refine
      parity
        ((scale.nearest rounds (signed_mem_numbers negative member)).2 ?_ same)
    intro equal
    rw [← numberEq] at equal
    exact distinct (by rw [← equal, signed_signed])

end Scale

theorem two_zpow_mono {lower upper : Int} (le : lower ≤ upper) :
    (2 : ℚ) ^ lower ≤ 2 ^ upper :=
  zpow_le_zpow_right₀ one_le_two le

/-- A size that is scaled below the greatest power is within the finite values. -/
theorem IsScale.lt_overflow
    {size : ℚ}
    {exponent : Int}
    (scale : IsScale size exponent)
    (exponentLt : exponent < greatestExponent) :
    size < overflow := by
  have powerLe : (2 : ℚ) ^ (exponent + 1) ≤ 2 ^ greatestExponent :=
    two_zpow_mono exponentLt
  rw [zpow_add_one₀ two_ne_zero] at powerLe
  have upper := scale.upper
  have powerPos : (0 : ℚ) < 2 ^ exponent := by positivity
  rw [overflow]
  linarith

/-- A size that is scaled beyond the greatest power is beyond the finite values. -/
theorem IsScale.overflow_le
    {size : ℚ}
    {exponent : Int}
    (scale : IsScale size exponent)
    (ltExponent : greatestExponent < exponent) :
    overflow ≤ size := by
  have powerLe : (2 : ℚ) ^ (greatestExponent + 1) ≤ 2 ^ exponent :=
    two_zpow_mono ltExponent
  have greater : exponent ≠ leastExponent := by
    have : leastExponent < greatestExponent := by decide
    omega
  have lower := scale.lower.resolve_left greater
  have powerPos : (0 : ℚ) < 2 ^ greatestExponent := by positivity
  rw [zpow_add_one₀ two_ne_zero] at powerLe
  rw [overflow]
  linarith

/-- A positive quotient rounds to the value that is computed for it. -/
theorem rounds_ofQuotient
    (negative : Bool)
    {numerator denominator : Nat}
    (numeratorPos : 0 < numerator)
    (denominatorPos : 0 < denominator) :
    Rounds negative (numerator / denominator)
      (ofQuotient negative numerator denominator) := by
  have scale := isScale_exponentOf numeratorPos denominatorPos
  have rounds :=
    roundsEven_roundHalfEven
      (scaledDown numerator denominator (exponentOf numerator denominator)).1
      (scaledDown_snd_pos numerator denominatorPos
        (exponentOf numerator denominator))
  rw [scaledDown_div] at rounds
  rw [ofQuotient, if_neg numeratorPos.ne']
  dsimp only
  generalize (numerator : ℚ) / denominator = size at scale rounds ⊢
  generalize exponentOf numerator denominator = exponent at scale rounds ⊢
  generalize
    roundHalfEven (scaledDown numerator denominator exponent).1
      (scaledDown numerator denominator exponent).2 = whole at rounds ⊢
  have exponentGe := scale.exponent_ge
  have wholeLe := scale.whole_le rounds
  have belowIff := lt_significandBound_iff rounds
  by_cases carried : whole = significandBound
  · -- The carry leaves the least significand of the next power.
    simp only [carried, if_true]
    have beyond : (2 ^ 53 - 1 / 2) * 2 ^ exponent ≤ size :=
      not_lt.mp (mt belowIff.mpr carried.not_lt)
    split_ifs with great
    · refine .infinite (le_trans ?_ beyond)
      exact
        mul_le_mul_of_nonneg_left (two_zpow_mono (by omega)) (by norm_num)
    · refine
        scale.rounds_finite rounds negative ?_ (fun _ => by decide)
          (scale.lt_overflow (by omega)) (by decide) (by omega) (by omega)
          (Or.inr (Or.inl (by decide)))
      have half : ((significandBound / 2 : Nat) : ℚ) * 2 = significandBound := by
        exact_mod_cast (by decide : significandBound / 2 * 2 = significandBound)
      rw [zpow_add_one₀ two_ne_zero, carried, ← half]
      ring
  · simp only [carried, if_false]
    have below : whole < significandBound := by omega
    split_ifs with great
    · exact .infinite (scale.overflow_le great)
    · have within : size < overflow :=
        (belowIff.mp below).trans_le
          (mul_le_mul_of_nonneg_left (two_zpow_mono (by omega)) (by norm_num))
      exact
        scale.rounds_finite rounds negative rfl id within below exponentGe
          (by omega) (Or.inr (scale.normal rounds).symm)

theorem eq_zero_or_le_abs
    {number : ℚ}
    (member : number ∈ numbers) :
    number = 0 ∨ 2 ^ leastExponent ≤ |number| := by
  rcases member with ⟨negative, significand, exponent, _, exponentGe, _, rfl⟩
  rcases Nat.eq_zero_or_pos significand with rfl | positive
  · left
    cases negative <;> simp [signed]
  · right
    have powerPos : (0 : ℚ) < 2 ^ exponent := by positivity
    have oneLe : (1 : ℚ) ≤ significand := Nat.one_le_cast.mpr positive
    rw [abs_signed, abs_of_nonneg (by positivity)]
    exact
      (two_zpow_mono exponentGe).trans (le_mul_of_one_le_left powerPos.le oneLe)

/-- A size of half the least number at most rounds to zero. -/
theorem rounds_zero
    (negative : Bool)
    {size : ℚ}
    (nonneg : 0 ≤ size)
    (small : 2 * size ≤ 2 ^ leastExponent) :
    Rounds negative size (.finite negative 0 0) := by
  have within : size < overflow := by
    have leastLe : (2 : ℚ) ^ leastExponent ≤ 2 ^ greatestExponent :=
      two_zpow_mono (by decide)
    have powerPos : (0 : ℚ) < 2 ^ greatestExponent := by positivity
    rw [overflow]
    linarith
  have zeroEq : signed negative (((0 : Nat) : ℚ) * 2 ^ (0 : Int)) = 0 := by
    cases negative <;> simp [signed]
  refine
    .finite within (by decide) (by decide) (by decide) (Or.inl rfl) ?_
      (fun _ _ _ _ => rfl)
  intro other member
  rw [zeroEq, zero_sub, abs_neg, abs_signed, abs_of_nonneg nonneg]
  rcases eq_zero_or_le_abs member with rfl | far
  · rw [zero_sub, abs_neg, abs_signed, abs_of_nonneg nonneg]
  · have apart := abs_sub_abs_le_abs_sub other (signed negative size)
    rw [abs_signed, abs_of_nonneg nonneg] at apart
    linarith

/-! ## Whole numbers -/

theorem twoTo_zero : twoTo 0 = 1 := rfl

theorem natCast_mem_numbers {number : Nat} (bounded : number < significandBound) :
    (number : ℚ) ∈ numbers :=
  ⟨false, number, 0, bounded, by decide, by decide, by simp [signed]⟩

/-- The whole number that a value equals is found on either side of the power zero. -/
theorem integer?_finite_of_scaled
    {significand number : Nat}
    {exponent : Int}
    (equal : significand * twoTo exponent.toNat = number * twoTo (-exponent).toNat) :
    (finite false significand exponent).integer? = some (number : Int) := by
  rw [integer?]
  dsimp only
  rw [if_neg Bool.false_ne_true]
  rcases Int.le_total 0 exponent with nonneg | nonpos
  · have unscaled : (-exponent).toNat = 0 := by omega
    rw [unscaled, twoTo_zero, Nat.mul_one] at equal
    rw [unscaled, twoTo_zero, if_pos (Nat.mod_one _), Nat.div_one, equal]
  · have unscaled : exponent.toNat = 0 := by omega
    have scalePos : 0 < twoTo (-exponent).toNat := Nat.two_pow_pos _
    rw [unscaled, twoTo_zero, Nat.mul_one] at equal
    rw [unscaled, twoTo_zero, equal, if_pos (Nat.mul_mod_left _ _),
      Nat.mul_div_cancel _ scalePos, Nat.mul_one]

/-- A whole number of 53 binary places rounds to itself. -/
theorem Rounds.integer?_eq
    {number : Nat}
    (bounded : number < significandBound)
    {value : Binary64}
    (rounds : Rounds false number value) :
    value.integer? = some (number : Int) := by
  cases rounds with
  | infinite beyond =>
      have less : (number : ℚ) < 2 ^ 53 := by
        rw [← cast_significandBound]
        exact Nat.cast_lt.mpr bounded
      have twoLe : (2 : ℚ) ^ (1 : Int) ≤ 2 ^ greatestExponent :=
        two_zpow_mono (by decide)
      rw [overflow] at beyond
      linarith
  | @finite significand exponent _ _ _ _ _ nearest _ =>
      have equal := nearest number (natCast_mem_numbers bounded)
      rw [signed, signed, if_neg Bool.false_ne_true, if_neg Bool.false_ne_true,
        sub_self, abs_zero, abs_nonpos_iff, sub_eq_zero, zpow_eq_div two_ne_zero,
        mul_div_assoc', div_eq_iff (by positivity)] at equal
      replace equal :
          significand * twoTo exponent.toNat = number * twoTo (-exponent).toNat := by
        rw [twoTo, twoTo]
        exact_mod_cast equal
      exact integer?_finite_of_scaled equal

end Binary64

namespace Decimal

/-- The number that a literal stands for, without its sign. -/
def size (literal : Decimal) : ℚ := literal.digits * 10 ^ literal.exponent

theorem size_eq_div (literal : Decimal) :
    literal.size =
      (literal.digits * tenTo literal.exponent.toNat : Nat) /
        (tenTo (-literal.exponent).toNat : Nat) := by
  rw [size, Binary64.zpow_eq_div (by norm_num), tenTo, tenTo]
  simp only [Nat.cast_mul, Nat.pow_eq, Nat.cast_pow, Nat.cast_ofNat]
  ring

/-- A literal with so great a power of ten is beyond the finite values. -/
theorem overflow_le_size
    {literal : Decimal}
    (nonzero : literal.digits ≠ 0)
    (great : greatestPower < literal.exponent) :
    Binary64.overflow ≤ literal.size := by
  have oneLe : (1 : ℚ) ≤ literal.digits :=
    Nat.one_le_cast.mpr (Nat.pos_of_ne_zero nonzero)
  calc
    Binary64.overflow ≤ 2 ^ (1024 : Int) := by
      rw [show (1024 : Int) = 53 + Binary64.greatestExponent from rfl,
        zpow_add₀ two_ne_zero, Binary64.overflow]
      have powerPos : (0 : ℚ) < 2 ^ Binary64.greatestExponent := by positivity
      exact mul_le_mul_of_nonneg_right (by norm_num) powerPos.le
    _ ≤ 2 ^ (3 * greatestPower) := Binary64.two_zpow_mono (by decide)
    _ = 8 ^ greatestPower := by
      rw [zpow_mul]
      norm_num
    _ ≤ 10 ^ greatestPower :=
      zpow_le_zpow_left₀ (by decide) (by norm_num) (by norm_num)
    _ ≤ 10 ^ literal.exponent :=
      zpow_le_zpow_right₀ (by norm_num) great.le
    _ ≤ literal.size := le_mul_of_one_le_left (by positivity) oneLe

/-- A literal with so few binary places is less than half the least number. -/
theorem two_mul_size_le
    {literal : Decimal}
    (negativeExponent : literal.exponent < 0)
    (small :
      (literal.digits.log2 : Int) + 1 + 3 * literal.exponent <
        leastBinaryPlaces) :
    2 * literal.size ≤ 2 ^ Binary64.leastExponent := by
  have digitsLt : (literal.digits : ℚ) < 2 ^ ((literal.digits.log2 : Int) + 1) := by
    have upper := @Nat.lt_log2_self literal.digits
    exact_mod_cast upper
  have powerLe : (10 : ℚ) ^ literal.exponent ≤ 2 ^ (3 * literal.exponent) := by
    have eightLe :
        ((2 : ℚ) ^ (3 : Int)) ^ (-literal.exponent) ≤ 10 ^ (-literal.exponent) :=
      zpow_le_zpow_left₀ (by omega) (by norm_num) (by norm_num)
    rw [zpow_neg, zpow_neg] at eightLe
    rw [zpow_mul]
    exact (inv_le_inv₀ (by positivity) (by positivity)).mp eightLe
  calc
    2 * literal.size ≤
        2 * (2 ^ ((literal.digits.log2 : Int) + 1) *
          2 ^ (3 * literal.exponent)) := by
      rw [size]
      gcongr
    _ = 2 ^ (1 + (((literal.digits.log2 : Int) + 1) + 3 * literal.exponent)) := by
      rw [zpow_add₀ two_ne_zero 1, zpow_add₀ two_ne_zero _ (3 * _), zpow_one]
    _ ≤ 2 ^ Binary64.leastExponent :=
      Binary64.two_zpow_mono (by
        rw [leastBinaryPlaces] at small
        rw [Binary64.leastExponent]
        omega)

open Binary64 in
/-- A literal rounds to its nearest value. -/
theorem rounds_nearest (literal : Decimal) :
    Rounds literal.negative literal.size literal.nearest := by
  have nonneg : 0 ≤ literal.size := by
    rw [size]
    positivity
  rw [nearest]
  split_ifs with zero great small
  · refine rounds_zero literal.negative nonneg ?_
    rw [size, zero, Nat.cast_zero, zero_mul, mul_zero]
    positivity
  · exact .infinite (overflow_le_size zero great)
  · exact rounds_zero literal.negative nonneg (two_mul_size_le small.1 small.2)
  · rw [size_eq_div]
    exact
      rounds_ofQuotient literal.negative
        (Nat.mul_pos (Nat.pos_of_ne_zero zero) (Nat.pow_pos (by decide)))
        (Nat.pow_pos (by decide))

end Decimal

end SurfaceKinetics
