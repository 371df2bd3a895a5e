import Mathlib
import SurfaceKinetics.Proofs.Quantity.Positive

/-!
# Positive binary64 numbers

Rounding may lose digits of a sum of positive numbers, or exceed the greatest
number and become infinite, but it never loses the sum: the exponents of both
terms are at least that of the least positive number, so the sum is a multiple
of it.  A number is a mantissa and an exponent here, as it is unpacked.
-/

namespace SurfaceKinetics.Binary64

open Float.Model
open Float.Model.UnpackedFloat

/-- The unpacked numbers that are positive and of a size that can be packed. -/
inductive Positive : UnpackedFloat → Prop where
  | infinity : Positive (.infinity .positive)
  | finite
      {mantissa : Nat}
      {exponent : Int}
      (mantissa_pos : 0 < mantissa)
      (mantissa_lt : mantissa < 2 ^ 53)
      (exponent_ge : leastExponent ≤ exponent) :
      Positive (.finite .positive mantissa exponent mantissa_pos)

/-! ## Rounding -/

theorem mantissa_repeat
    (count : Nat)
    (extended : ExtendedMantissa) :
    (Nat.repeat ExtendedMantissa.shiftRightOne count extended).mantissa =
      extended.mantissa / 2 ^ count := by
  induction count with
  | zero => exact (Nat.div_one _).symm
  | succ count induction =>
      rw [Nat.repeat, ExtendedMantissa.shiftRightOne, induction, Nat.pow_succ,
        Nat.div_div_eq_div_mul]

/-- Without its digits beyond the 53rd a mantissa is still positive. -/
theorem mantissa_shifted_bounds {mantissa : Nat} (mantissaPos : 0 < mantissa) :
    0 < mantissa / 2 ^ (mantissa.log2 + 1 - 53) ∧
      mantissa / 2 ^ (mantissa.log2 + 1 - 53) < 2 ^ 53 := by
  have lower : 2 ^ mantissa.log2 ≤ mantissa :=
    Nat.log2_self_le (Nat.ne_of_gt mantissaPos)
  have upper : mantissa < 2 ^ (mantissa.log2 + 1) := Nat.lt_log2_self
  constructor
  · apply Nat.div_pos _ (Nat.two_pow_pos _)
    exact
      Nat.le_trans (Nat.pow_le_pow_right Nat.two_pos (by omega)) lower
  · rw [Nat.div_lt_iff_lt_mul (Nat.two_pow_pos _), ← Nat.pow_add]
    exact
      Nat.lt_of_lt_of_le upper
        (Nat.pow_le_pow_right Nat.two_pos (by omega))

/-- A shift leaves at most 53 bits of a mantissa, and not none. -/
theorem shiftToTargetExponent_bounds
    {mantissa : Nat}
    (mantissaPos : 0 < mantissa)
    {exponent : Int}
    (exponentGe : leastExponent ≤ exponent) :
    let shifted :=
      shiftToTargetExponent Format.binary64 mantissa exponent .exact
    0 < shifted.1.mantissa ∧
      shifted.1.mantissa < 2 ^ 53 ∧ leastExponent ≤ shifted.2 := by
  have amountEq :
      (Format.binary64.targetExponent (totalExponent mantissa exponent) -
          exponent).toNat =
        mantissa.log2 + 1 - 53 := by
    rw [leastExponent] at exponentGe
    show (max (↑mantissa.log2 + 1 + exponent - 53) (-1074) - exponent).toNat = _
    omega
  have mantissaEq :
      (shiftToTargetExponent Format.binary64 mantissa exponent
          .exact).1.mantissa =
        mantissa / 2 ^ (mantissa.log2 + 1 - 53) := by
    rw [← amountEq]
    exact mantissa_repeat _ ⟨mantissa, false, false⟩
  have bounds := mantissa_shifted_bounds mantissaPos
  rw [← mantissaEq] at bounds
  refine ⟨bounds.1, bounds.2, ?_⟩
  exact
    Int.le_trans exponentGe
      (Int.le_add_of_nonneg_right (Int.natCast_nonneg _))

theorem le_roundedMantissa (extended : ExtendedMantissa) :
    extended.mantissa ≤ extended.roundedMantissa := by
  rcases extended with ⟨mantissa, round, sticky⟩
  cases round <;> cases sticky <;>
    simp [ExtendedMantissa.roundedMantissa, ExtendedMantissa.accuracy,
      Accuracy.roundToNearestEven]

/-- Rounding a positive number leaves a positive number. -/
theorem positive_roundWithAccuracy
    {mantissa : Nat}
    (mantissaPos : 0 < mantissa)
    {exponent : Int}
    (exponentGe : leastExponent ≤ exponent) :
    Positive
      (roundWithAccuracy Format.binary64 .positive mantissa exponent
        .exact) := by
  rcases shiftToTargetExponent_bounds mantissaPos exponentGe with
    ⟨shiftedPos, _, shiftedGe⟩
  have roundedPos := Nat.lt_of_lt_of_le shiftedPos (le_roundedMantissa _)
  rcases shiftToTargetExponent_bounds roundedPos shiftedGe with
    ⟨finalPos, finalLt, finalGe⟩
  rw [roundWithAccuracy]
  dsimp only
  rw [dif_neg (Nat.ne_of_gt finalPos)]
  exact .finite finalPos finalLt finalGe

theorem shiftLeft_pos
    {mantissa : Nat}
    (mantissaPos : 0 < mantissa)
    (amount : Nat) :
    0 < mantissa <<< amount := by
  rw [Nat.shiftLeft_eq]
  exact Nat.mul_pos mantissaPos (Nat.two_pow_pos amount)

theorem positive_round
    {mantissa : Nat}
    (mantissaPos : 0 < mantissa)
    {exponent : Int}
    (exponentGe : leastExponent ≤ exponent) :
    Positive (round Format.binary64 .positive mantissa exponent) := by
  rw [UnpackedFloat.round, decreaseExponent]
  apply positive_roundWithAccuracy
  · exact shiftLeft_pos mantissaPos _
  · rw [leastExponent] at exponentGe ⊢
    show
      -1074 ≤
        exponent -
          (exponent -
            max (↑mantissa.log2 + 1 + exponent - 53) (-1074)).toNat
    omega

theorem positive_normalize
    {mantissa : Int}
    (mantissaPos : 0 < mantissa)
    {exponent : Int}
    (exponentGe : leastExponent ≤ exponent)
    (zeroSign : Sign) :
    Positive (normalize Format.binary64 mantissa exponent zeroSign) := by
  rw [UnpackedFloat.normalize, Int.compare_eq_gt.mpr mantissaPos]
  exact positive_round (Int.pos_iff_toNat_pos.mp mantissaPos) exponentGe

/-! ## Sums -/

/-- A sum of positive numbers is positive. -/
theorem Positive.add
    {first second : UnpackedFloat}
    (firstPositive : Positive first)
    (secondPositive : Positive second) :
    Positive (UnpackedFloat.add Format.binary64 first second) := by
  cases firstPositive with
  | infinity =>
      cases secondPositive with
      | infinity => exact .infinity
      | finite => exact .infinity
  | finite firstPos firstLt firstGe =>
      cases secondPositive with
      | infinity => exact .infinity
      | finite secondPos secondLt secondGe =>
          apply positive_normalize
          · exact
              Int.add_pos
                (Int.natCast_pos.mpr (shiftLeft_pos firstPos _))
                (Int.natCast_pos.mpr (shiftLeft_pos secondPos _))
          · exact Int.le_min.mpr ⟨firstGe, secondGe⟩

theorem Positive.zero_add
    {number : UnpackedFloat}
    (positive : Positive number)
    (sign : Sign) :
    Positive (UnpackedFloat.add Format.binary64 (.zero sign) number) := by
  cases positive with
  | infinity => exact .infinity
  | finite mantissaPos mantissaLt exponentGe =>
      exact .finite mantissaPos mantissaLt exponentGe

theorem Positive.add_zero
    {number : UnpackedFloat}
    (positive : Positive number)
    (sign : Sign) :
    Positive (UnpackedFloat.add Format.binary64 number (.zero sign)) := by
  cases positive with
  | infinity => exact .infinity
  | finite mantissaPos mantissaLt exponentGe =>
      exact .finite mantissaPos mantissaLt exponentGe

/-! ## Packing -/

theorem toNat_pos_of_ne_zero
    {width : Nat}
    {bits : BitVec width}
    (nonzero : bits ≠ BitVec.ofNat width 0) :
    0 < bits.toNat := by
  apply Nat.pos_of_ne_zero
  intro zero
  exact nonzero (BitVec.eq_of_toNat_eq (by simpa using zero))

/-- Bits of positive sign are a positive number, unless all others are zero. -/
theorem positive_unpack
    {bits : BitVec Format.binary64.numBits}
    (signEq : Sign.ofBitVec (unpackSign bits) = .positive)
    (number : unpackExponent bits = -1#11 → unpackMantissa bits = 0#52)
    (nonzero : unpackExponent bits = 0#11 → unpackMantissa bits ≠ 0#52) :
    Positive (UnpackedFloat.unpack Format.binary64 bits) := by
  rw [UnpackedFloat.unpack, signEq]
  dsimp only
  split
  · next extreme =>
      rw [if_pos (number extreme)]
      exact .infinity
  · split
    · next zero =>
        rw [dif_neg (nonzero zero)]
        have small := (unpackMantissa bits).isLt
        apply Positive.finite
        · exact Nat.lt_trans small (by decide)
        · rw [zero, leastExponent]
          decide
    · next exponentNe =>
        have positive := toNat_pos_of_ne_zero exponentNe
        apply Positive.finite
        · exact (1#1 ++ unpackMantissa bits).isLt
        · show -1074 ≤ _ - (((1023 : Nat) : Int) + ((52 : Nat) : Int))
          omega

/-- What is greater than zero is positive. -/
theorem positive_of_zero_lt
    {bits : BitVec Format.binary64.numBits}
    {sign : Sign}
    (greater :
      UnpackedFloat.lt (.zero sign)
          (UnpackedFloat.unpack Format.binary64 bits) =
        true) :
    Positive (UnpackedFloat.unpack Format.binary64 bits) := by
  rw [UnpackedFloat.unpack] at greater
  dsimp only at greater
  apply positive_unpack
  · cases signEq : Sign.ofBitVec (unpackSign bits) with
    | positive => rfl
    | negative =>
        rw [signEq] at greater
        split at greater
        · split at greater <;> cases greater
        · split at greater
          · split at greater <;> cases greater
          · cases greater
  · intro extreme
    rw [if_pos extreme] at greater
    split at greater
    · next zero => exact zero
    · cases greater
  · intro zero mantissaEq
    rw [if_neg (by rw [zero]; decide), if_pos zero,
      dif_pos mantissaEq] at greater
    cases greater

theorem positive_unpack_packComponents
    {exponent : BitVec 11}
    {mantissa : BitVec 52}
    (number : exponent = -1#11 → mantissa = 0#52)
    (nonzero : exponent = 0#11 → mantissa ≠ 0#52) :
    Positive
      (UnpackedFloat.unpack Format.binary64
        (packComponents Format.binary64 .positive exponent mantissa)) := by
  apply positive_unpack
  · rw [unpackSign_packComponents, Sign.ofBitVec_toBitVec]
  · rw [unpackExponent_packComponents, unpackMantissa_packComponents]
    exact number
  · rw [unpackExponent_packComponents, unpackMantissa_packComponents]
    exact nonzero

theorem ofNat_ne_ofNat
    {width first second : Nat}
    (firstLt : first < 2 ^ width)
    (secondLt : second < 2 ^ width)
    (distinct : first ≠ second) :
    BitVec.ofNat width first ≠ BitVec.ofNat width second := by
  intro equal
  have valueEq := congrArg BitVec.toNat equal
  rw [BitVec.toNat_ofNat, BitVec.toNat_ofNat, Nat.mod_eq_of_lt firstLt,
    Nat.mod_eq_of_lt secondLt] at valueEq
  exact distinct valueEq

/-- A positive number that is packed is unpacked as a positive number. -/
theorem Positive.unpack_pack
    {number : UnpackedFloat}
    (positive : Positive number) :
    Positive
      (UnpackedFloat.unpack Format.binary64
        (UnpackedFloat.pack Format.binary64 number)) := by
  cases positive with
  | infinity => exact .infinity
  | @finite mantissa exponent mantissaPos mantissaLt exponentGe =>
      rw [UnpackedFloat.pack]
      dsimp only
      split
      · exact .infinity
      · next fits =>
          have biasedEq :
              (exponent + Format.binary64.exponentBias +
                  Format.binary64.mantissaBitsWithoutImplicit).toNat =
                (exponent + 1075).toNat := by
            show (exponent + ((1023 : Nat) : Int) + ((52 : Nat) : Int)).toNat = _
            omega
          rw [biasedEq] at fits ⊢
          rw [leastExponent] at exponentGe
          replace fits : ¬ 2 ^ 11 ≤ (exponent + 1075).toNat + 1 := fits
          split
          · -- A normal number is stored with an exponent that is not extreme.
            apply positive_unpack_packComponents
            · intro extreme
              exact absurd extreme (ofNat_ne_ofNat (by omega) (by decide)
                (by omega : (exponent + 1075).toNat ≠ 2047))
            · intro zero
              exact absurd zero
                (ofNat_ne_ofNat (by omega) (by decide) (by omega))
          · next short =>
              -- A subnormal number has all its digits in the stored mantissa.
              have mantissaNe : mantissa ≠ 0 := Nat.ne_of_gt mantissaPos
              have logLt : mantissa.log2 < 53 :=
                (Nat.log2_lt mantissaNe).mpr mantissaLt
              replace short : ¬ mantissa.log2 + 1 = 53 := short
              have small : mantissa < 2 ^ 52 :=
                (Nat.log2_lt mantissaNe).mp (by omega)
              apply positive_unpack_packComponents
              · intro impossible
                cases impossible
              · exact fun _ => ofNat_ne_ofNat small (by decide) mantissaNe

/-! ## Comparison -/

theorem Positive.zero_lt
    {number : UnpackedFloat}
    (positive : Positive number)
    (sign : Sign) :
    UnpackedFloat.lt (.zero sign) number = true := by
  cases positive <;> rfl

theorem Positive.not_le_zero
    {number : UnpackedFloat}
    (positive : Positive number)
    (sign : Sign) :
    UnpackedFloat.le number (.zero sign) = false := by
  cases positive <;> rfl

theorem unpack_zero :
    (Quantity.zero : Float).toModel.unpack = .zero .positive :=
  rfl

theorem unpack_emptySum :
    (Quantity.emptySum : Float).toModel.unpack = .zero .negative :=
  rfl

theorem unpack_add (first second : Float) :
    (first + second).toModel.unpack =
      UnpackedFloat.unpack Format.binary64
        (UnpackedFloat.pack Format.binary64
          (UnpackedFloat.add Format.binary64 first.toModel.unpack
            second.toModel.unpack)) :=
  rfl

theorem zero_lt_iff {number : Float} :
    Quantity.zero < number ↔ Positive number.toModel.unpack := by
  have lessIff :
      Quantity.zero < number ↔
        UnpackedFloat.lt (.zero .positive) number.toModel.unpack = true := by
    rw [← unpack_zero]
    exact decide_eq_true_iff
  rw [lessIff]
  exact ⟨positive_of_zero_lt, fun positive => positive.zero_lt .positive⟩

theorem not_le_zero_of_positive
    {number : Float}
    (positive : Positive number.toModel.unpack) :
    ¬ number ≤ Quantity.zero := by
  have leIff :
      number ≤ Quantity.zero ↔
        UnpackedFloat.le number.toModel.unpack (.zero .positive) = true := by
    rw [← unpack_zero]
    exact decide_eq_true_iff
  rw [leIff, positive.not_le_zero]
  exact Bool.false_ne_true

instance : PositiveSums Float where
  not_le_zero positive := not_le_zero_of_positive (zero_lt_iff.mp positive)
  nothing_add_nothing := rfl
  nothing_add positive := by
    rw [zero_lt_iff] at positive ⊢
    rw [unpack_add, unpack_emptySum]
    exact (positive.zero_add .negative).unpack_pack
  add_nothing positive := by
    rw [zero_lt_iff] at positive ⊢
    rw [unpack_add, unpack_emptySum]
    exact (positive.add_zero .negative).unpack_pack
  add_pos first second := by
    rw [zero_lt_iff] at first second ⊢
    rw [unpack_add]
    exact (first.add second).unpack_pack

end SurfaceKinetics.Binary64
