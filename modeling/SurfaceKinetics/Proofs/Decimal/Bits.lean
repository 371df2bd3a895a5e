import Mathlib
import SurfaceKinetics.Proofs.Decimal.Rounding

/-!
# Bit patterns

A bit pattern has a sign bit, an exponent field of 11 bits and a fraction of 52.  The
patterns of values are kept when they are stored as floating-point numbers, where
only the patterns of the undefined value are merged into one.  So a value is read back
from its number, but for the power of a zero.
-/

namespace SurfaceKinetics.Binary64

open Float.Model
open Float.Model.UnpackedFloat

/-- The exponent field of infinite and undefined values. -/
def extremeField : Nat := 2 ^ 11 - 1

/-- A bit pattern with this sign, exponent field and fraction. -/
structure HasFields
    (bits : UInt64)
    (negative : Bool)
    (field fraction : Nat) : Prop where
  field_lt : field < 2 ^ 11
  fraction_lt : fraction < 2 ^ 52
  toNat_eq : bits.toNat = (negative.toNat * 2 ^ 11 + field) * 2 ^ 52 + fraction

namespace HasFields

variable
    {bits : UInt64}
    {negative : Bool}
    {field fraction : Nat}

theorem ofBits
    (fields : HasFields bits negative field fraction) :
    ofBits bits =
      if field = extremeField then
        if fraction = 0 then .infinite negative else .undefined
      else if field = 0 then
        .finite negative fraction leastExponent
      else
        .finite negative (2 ^ 52 + fraction) (field - 1075) := by
  rcases fields with ⟨fieldLt, fractionLt, toNatEq⟩
  have signEq : (bits >>> 63 == 1) = negative := by
    have shiftedEq : (bits >>> 63).toNat = negative.toNat := by
      rw [UInt64.toNat_shiftRight, Nat.shiftRight_eq_div_pow]
      show bits.toNat / 2 ^ 63 = _
      omega
    rw [Bool.eq_iff_iff, beq_iff_eq, ← UInt64.toNat_inj, shiftedEq]
    cases negative <;> decide
  have fieldEq : ((bits >>> 52) &&& 0x7FF).toNat = field := by
    rw [UInt64.toNat_and, UInt64.toNat_shiftRight, Nat.shiftRight_eq_div_pow]
    show bits.toNat / 2 ^ 52 &&& (2 ^ 11 - 1) = _
    rw [Nat.and_two_pow_sub_one_eq_mod]
    omega
  have fractionEq : (bits &&& 0xFFFFFFFFFFFFF).toNat = fraction := by
    rw [UInt64.toNat_and]
    show bits.toNat &&& (2 ^ 52 - 1) = _
    rw [Nat.and_two_pow_sub_one_eq_mod]
    omega
  rw [Binary64.ofBits]
  simp only [signEq, fieldEq, fractionEq]
  rfl

end HasFields

/-! ## Packing -/

theorem toBitVec_ofBitVec (bit : BitVec 1) : (Sign.ofBitVec bit).toBitVec = bit := by
  revert bit
  decide

theorem toNat_one_append (fraction : BitVec 52) :
    (1#1 ++ fraction).toNat = 2 ^ 52 + fraction.toNat := by
  rw [BitVec.toNat_append, ← Nat.shiftLeft_add_eq_or_of_lt fraction.isLt]
  rfl

theorem packComponents_unpack (bits : BitVec Format.binary64.numBits) :
    packComponents Format.binary64 (Sign.ofBitVec (unpackSign bits))
        (unpackExponent bits) (unpackMantissa bits) =
      bits := by
  simp only [packComponents, toBitVec_ofBitVec, unpackSign, unpackExponent,
    unpackMantissa, BitVec.extractLsb]
  ext position bound
  grind

section Finite

variable
    (sign : Sign)
    {mantissa : Nat}
    (positive : 0 < mantissa)

/-- A mantissa of 52 bits at most is stored with the field zero. -/
theorem pack_finite_small (small : mantissa < 2 ^ 52) :
    UnpackedFloat.pack Format.binary64
        (.finite sign mantissa leastExponent positive) =
      packComponents Format.binary64 sign 0#11 (BitVec.ofNat 52 mantissa) := by
  have logLt : mantissa.log2 < 52 := (Nat.log2_lt positive.ne').mpr small
  rw [UnpackedFloat.pack]
  dsimp only
  rw [if_neg (by decide), if_neg (by
    show ¬ mantissa.log2 + 1 = 53
    omega)]

/-- The leading bit of a mantissa of 53 bits is left out. -/
theorem pack_finite_large
    (large : 2 ^ 52 ≤ mantissa)
    (bounded : mantissa < 2 ^ 53)
    {field : Nat}
    (fieldLt : field + 1 < 2 ^ 11) :
    UnpackedFloat.pack Format.binary64
        (.finite sign mantissa (field - 1075) positive) =
      packComponents Format.binary64 sign (BitVec.ofNat 11 field)
        (BitVec.ofNat 52 mantissa) := by
  have logLt : mantissa.log2 < 53 := (Nat.log2_lt positive.ne').mpr bounded
  have leLog : 52 ≤ mantissa.log2 := (Nat.le_log2 positive.ne').mpr large
  have fieldEq :
      ((field : Int) - 1075 + Format.binary64.exponentBias +
          Format.binary64.mantissaBitsWithoutImplicit).toNat =
        field := by
    show ((field : Int) - 1075 + ((1023 : Nat) : Int) + ((52 : Nat) : Int)).toNat = _
    omega
  rw [UnpackedFloat.pack]
  dsimp only
  rw [fieldEq, if_neg (Nat.not_le.mpr fieldLt), if_pos (by
    show mantissa.log2 + 1 = 53
    omega)]

end Finite

/-- Bits are kept, unless they are those of the undefined value. -/
theorem pack_unpack
    {bits : BitVec Format.binary64.numBits}
    (number : unpackExponent bits = -1#11 → unpackMantissa bits = 0#52) :
    UnpackedFloat.pack Format.binary64 (UnpackedFloat.unpack Format.binary64 bits) =
      bits := by
  conv_rhs => rw [← packComponents_unpack bits]
  rw [UnpackedFloat.unpack]
  dsimp only
  split_ifs with extreme infinite zero nothing
  · rw [extreme, infinite]
    rfl
  · exact absurd (number extreme) infinite
  · rw [zero, nothing]
    rfl
  · have small := (unpackMantissa bits).isLt
    rw [zero]
    refine (pack_finite_small _ _ small).trans ?_
    rw [BitVec.ofNat_toNat, BitVec.setWidth_eq]
  · have fieldLt : (unpackExponent bits).toNat < 2 ^ 11 := (unpackExponent bits).isLt
    have fractionLt : (unpackMantissa bits).toNat < 2 ^ 52 :=
      (unpackMantissa bits).isLt
    have mantissaEq := toNat_one_append (unpackMantissa bits)
    have fieldNe : (unpackExponent bits).toNat ≠ 2 ^ 11 - 1 := fun equal =>
      extreme (BitVec.eq_of_toNat_eq equal)
    refine
      (pack_finite_large _ _ (by omega) (by omega) (by omega)).trans ?_
    rw [BitVec.ofNat_toNat, BitVec.setWidth_eq, mantissaEq]
    congr 1
    exact BitVec.eq_of_toNat_eq (by rw [BitVec.toNat_ofNat]; omega)

/-! ## Reading back -/

namespace HasFields

variable
    {bits : UInt64}
    {negative : Bool}
    {field fraction : Nat}

theorem toNat_unpackExponent
    (fields : HasFields bits negative field fraction) :
    (@unpackExponent Format.binary64 bits.toBitVec).toNat = field := by
  rcases fields with ⟨fieldLt, fractionLt, toNatEq⟩
  rw [unpackExponent, BitVec.toNat_cast, BitVec.extractLsb_toNat,
    Nat.shiftRight_eq_div_pow]
  show bits.toNat / 2 ^ 52 % 2 ^ 11 = field
  omega

/-- The fields of a value that is not undefined are kept in a number. -/
theorem toBits_ofBits
    (fields : HasFields bits negative field fraction)
    (number : field = extremeField → fraction = 0) :
    (Float.ofBits bits).toBits = bits := by
  have fieldEq := fields.toNat_unpackExponent
  rcases fields with ⟨fieldLt, fractionLt, toNatEq⟩
  have fractionEq :
      (@unpackMantissa Format.binary64 bits.toBitVec).toNat = fraction := by
    rw [unpackMantissa, BitVec.toNat_cast, BitVec.extractLsb_toNat, Nat.shiftRight_zero]
    show bits.toNat % 2 ^ 52 = fraction
    omega
  refine (congrArg UInt64.ofBitVec (pack_unpack fun extreme => ?_)).trans rfl
  refine BitVec.eq_of_toNat_eq (fractionEq.trans (number ?_))
  rw [← fieldEq, extreme]
  rfl

end HasFields

/-! ## Finite numbers -/

theorem exists_hasFields (bits : UInt64) :
    ∃ negative field fraction, HasFields bits negative field fraction := by
  refine
    ⟨decide (2 ^ 63 ≤ bits.toNat), bits.toNat / 2 ^ 52 % 2 ^ 11, bits.toNat % 2 ^ 52,
      ?_, ?_, ?_⟩
  · exact Nat.mod_lt _ (by decide)
  · exact Nat.mod_lt _ (by decide)
  · have bounded := bits.toNat_lt
    by_cases large : 2 ^ 63 ≤ bits.toNat
    · rw [decide_eq_true large, Bool.toNat_true]
      omega
    · rw [decide_eq_false large, Bool.toNat_false]
      omega

/-- A finite number is read as a finite value. -/
theorem exists_finite_of_isFinite
    {number : Float}
    (finite : number.isFinite = true) :
    ∃ negative significand exponent,
      ofFloat number = .finite negative significand exponent := by
  rcases exists_hasFields number.toBits with ⟨negative, field, fraction, fields⟩
  have fieldNe : field ≠ extremeField := by
    intro extreme
    have exponentEq :
        @unpackExponent Format.binary64 number.toBits.toBitVec = -1#11 :=
      BitVec.eq_of_toNat_eq (fields.toNat_unpackExponent.trans extreme)
    have unpacked :
        (UnpackedFloat.unpack Format.binary64 number.toBits.toBitVec).isFinite = true :=
      finite
    rw [UnpackedFloat.unpack, if_pos exponentEq] at unpacked
    split at unpacked <;> cases unpacked
  rw [ofFloat, fields.ofBits, if_neg fieldNe]
  split
  · exact ⟨_, _, _, rfl⟩
  · exact ⟨_, _, _, rfl⟩

/-! ## Reading back -/

theorem toNat_sign (negative : Bool) :
    (toBits.sign negative).toNat = negative.toNat * 2 ^ 63 := by
  cases negative <;> rfl

theorem hasFields_sign_or
    (negative : Bool)
    {low : UInt64}
    {field fraction : Nat}
    (fieldLt : field < 2 ^ 11)
    (fractionLt : fraction < 2 ^ 52)
    (lowEq : low.toNat = field * 2 ^ 52 + fraction) :
    HasFields (toBits.sign negative ||| low) negative field fraction := by
  refine ⟨fieldLt, fractionLt, ?_⟩
  rw [UInt64.toNat_or, toNat_sign, lowEq, Nat.mul_comm negative.toNat,
    ← Nat.two_pow_add_eq_or_of_lt (by omega)]
  omega

theorem toNat_ofNat_of_lt {number : Nat} (bounded : number < 2 ^ 63) :
    (UInt64.ofNat number).toNat = number :=
  UInt64.toNat_ofNat_of_lt' (bounded.trans (by decide))

theorem ofFloat_toFloat_infinite (negative : Bool) :
    ofFloat (infinite negative).toFloat = infinite negative := by
  have fields : HasFields (infinite negative).toBits negative extremeField 0 :=
    hasFields_sign_or negative (by decide) (by decide) rfl
  rw [ofFloat, toFloat, fields.toBits_ofBits fun _ => rfl, fields.ofBits]
  rfl

/-- Of a value without leading bit the least power is read back. -/
theorem ofFloat_toFloat_small
    (negative : Bool)
    {significand : Nat}
    (small : significand < 2 ^ 52)
    (exponent : Int) :
    ofFloat (finite negative significand exponent).toFloat =
      finite negative significand leastExponent := by
  have fields :
      HasFields (finite negative significand exponent).toBits negative 0
        significand := by
    rw [toBits, if_pos (show significand < twoTo 52 from small)]
    refine hasFields_sign_or negative (by decide) small ?_
    rw [toNat_ofNat_of_lt (by omega), Nat.zero_mul, Nat.zero_add]
  rw [ofFloat, toFloat, fields.toBits_ofBits nofun, fields.ofBits]
  rfl

theorem ofFloat_toFloat_large
    (negative : Bool)
    {significand : Nat}
    (large : 2 ^ 52 ≤ significand)
    (bounded : significand < significandBound)
    {exponent : Int}
    (exponentGe : leastExponent ≤ exponent)
    (exponentLe : exponent ≤ greatestExponent) :
    ofFloat (finite negative significand exponent).toFloat =
      finite negative significand exponent := by
  rw [leastExponent] at exponentGe
  rw [greatestExponent] at exponentLe
  replace bounded : significand < 2 ^ 53 := bounded
  have fields :
      HasFields (finite negative significand exponent).toBits negative
        (exponent + 1075).toNat (significand - 2 ^ 52) := by
    rw [toBits, if_neg (show ¬ significand < twoTo 52 from Nat.not_lt.mpr large)]
    refine hasFields_sign_or negative (by omega) (by omega) ?_
    exact toNat_ofNat_of_lt (by rw [twoTo, Nat.pow_eq]; omega)
  have fieldNe : (exponent + 1075).toNat ≠ extremeField := by
    rw [extremeField]
    omega
  rw [ofFloat, toFloat, fields.toBits_ofBits (absurd · fieldNe), fields.ofBits,
    if_neg fieldNe, if_neg (by omega), Nat.add_sub_cancel' large]
  congr 1
  omega

/-- What a number rounds to is kept in a floating-point number. -/
theorem Rounds.ofFloat_toFloat
    {negative : Bool}
    {size : ℚ}
    {value : Binary64}
    (rounds : Rounds negative size value) :
    Rounds negative size (ofFloat value.toFloat) := by
  cases rounds with
  | infinite beyond =>
      rw [ofFloat_toFloat_infinite]
      exact .infinite beyond
  | @finite significand exponent within bounded exponent_ge exponent_le normal nearest
      even =>
      rcases Nat.lt_or_ge significand (2 ^ 52) with small | large
      · rw [ofFloat_toFloat_small negative small]
        have numberEq :
            (significand : ℚ) * 2 ^ exponent = significand * 2 ^ leastExponent := by
          rcases normal with rfl | contrary | rfl
          · rw [Nat.cast_zero, zero_mul, zero_mul]
          · exact absurd contrary (Nat.not_le.mpr small)
          · rfl
        rw [numberEq] at nearest even
        exact
          .finite within bounded le_rfl (by decide) (Or.inr (Or.inr rfl)) nearest even
      · rw [ofFloat_toFloat_large negative large bounded exponent_ge exponent_le]
        exact .finite within bounded exponent_ge exponent_le normal nearest even

end SurfaceKinetics.Binary64
