/-
This file follows the digits of a double through packing and rounding. A full mantissa with an
exponent that fits is read back from the bits as it was packed. A number that is neither too small
nor too great is rounded to a full mantissa, half a unit of its last place away at most.
-/

import Mathlib

namespace Holdout

namespace Double

open Float.Model Float.Model.UnpackedFloat

/-! ### Packing -/

/-- A full mantissa is its fraction behind a leading one. -/
theorem toNat_leading (fraction : BitVec 52) :
    (1#1 ++ fraction).toNat = 2 ^ 52 + fraction.toNat := by
  rw [BitVec.toNat_append, ← Nat.shiftLeft_add_eq_or_of_lt fraction.isLt]
  rfl

/-- What the parts of a double say, if it is neither too small nor too great for a full mantissa. -/
theorem unpack_packComponents (sign : Sign) {field : BitVec 11} (fraction : BitVec 52)
    (notLeast : field ≠ 0#11) (notGreatest : field ≠ -1#11) :
    ∃ positive, UnpackedFloat.unpack Format.binary64
        (packComponents Format.binary64 sign field fraction) =
      .finite sign (2 ^ 52 + fraction.toNat) (field.toNat - 1075) positive := by
  refine ⟨by positivity, ?_⟩
  simp only [UnpackedFloat.unpack, unpackMantissa_packComponents, unpackExponent_packComponents,
    unpackSign_packComponents, Sign.ofBitVec_toBitVec, if_neg notLeast, if_neg notGreatest,
    toNat_leading]
  rfl

section

variable (sign : Sign) {mantissa : Nat} {exponent : Int} (positive : 0 < mantissa)

theorem unpack_pack_of_great (great : 971 < exponent) :
    (pack (.finite sign mantissa exponent positive)).unpack = .infinity sign := by
  have overflows : 2 ^ 11 ≤ (exponent + (1023 : Nat) + (52 : Nat)).toNat + 1 := by omega
  show UnpackedFloat.unpack _ (if 2 ^ 11 ≤ (exponent + (1023 : Nat) + (52 : Nat)).toNat + 1 then _
    else _) = _
  rw [if_pos overflows]
  cases sign <;> rfl

theorem pack_of_full (full : 2 ^ 52 ≤ mantissa) (small : mantissa < 2 ^ 53)
    (greatest : exponent ≤ 971) :
    UnpackedFloat.pack Format.binary64 (.finite sign mantissa exponent positive) =
      packComponents Format.binary64 sign (BitVec.ofNat 11 (exponent + 1075).toNat)
        (BitVec.ofNat 52 mantissa) := by
  have log : mantissa.log2 = 52 := (Nat.log2_eq_iff positive.ne').mpr ⟨full, small⟩
  have biased : (exponent + (1023 : Nat) + (52 : Nat)).toNat = (exponent + 1075).toNat := by omega
  have fits : ¬ 2 ^ 11 ≤ (exponent + 1075).toNat + 1 := by omega
  show (if 2 ^ 11 ≤ (exponent + (1023 : Nat) + (52 : Nat)).toNat + 1 then _
    else if mantissa.log2 + 1 = 53 then packComponents Format.binary64 sign
      (BitVec.ofNat 11 (exponent + (1023 : Nat) + (52 : Nat)).toNat) (BitVec.ofNat 52 mantissa)
    else _) = _
  rw [biased, if_neg fits, log, if_pos rfl]

/-- A full mantissa with an exponent that fits is read back from the bits of the double. -/
theorem unpack_pack_of_full (full : 2 ^ 52 ≤ mantissa) (small : mantissa < 2 ^ 53)
    (least : -1074 ≤ exponent) (greatest : exponent ≤ 971) :
    (pack (.finite sign mantissa exponent positive)).unpack =
      .finite sign mantissa exponent positive := by
  have field : (BitVec.ofNat 11 (exponent + 1075).toNat).toNat = (exponent + 1075).toNat :=
    Nat.mod_eq_of_lt (by omega)
  have fraction : (BitVec.ofNat 52 mantissa).toNat = mantissa - 2 ^ 52 := by
    rw [BitVec.toNat_ofNat]
    omega
  have notLeast : BitVec.ofNat 11 (exponent + 1075).toNat ≠ 0#11 := fun same => by
    have none : (exponent + 1075).toNat = 0 := field.symm.trans (congrArg BitVec.toNat same)
    omega
  have notGreatest : BitVec.ofNat 11 (exponent + 1075).toNat ≠ -1#11 := fun same => by
    have most : (exponent + 1075).toNat = 2047 := field.symm.trans (congrArg BitVec.toNat same)
    omega
  obtain ⟨_, read⟩ := unpack_packComponents sign (BitVec.ofNat 52 mantissa) notLeast notGreatest
  show UnpackedFloat.unpack _ (UnpackedFloat.pack _ _) = _
  rw [pack_of_full sign positive full small greatest, read]
  congr 1
  · rw [fraction, Nat.add_sub_cancel' full]
  · rw [field]
    omega

end

/-! ### Digits and the bits after them -/

/-- What the kept digits and the two bits after them say about a number: the first bit is a half,
and the second one tells whether there is anything beyond. -/
def Represents (digits : ExtendedMantissa) (number : ℚ) : Prop :=
  let known : ℚ := digits.mantissa + if digits.roundBit then 1 / 2 else 0
  if digits.stickyBit then known < number ∧ number < known + 1 / 2 else number = known

/-- Digits with the accuracy with which they stand for a number. -/
abbrev digitsOf (mantissa : Nat) (accuracy : Accuracy) : ExtendedMantissa :=
  .ofMantissaAndAccuracy mantissa accuracy

theorem represents_exact (mantissa : Nat) : Represents (digitsOf mantissa .exact) mantissa := by
  simp [Represents, ExtendedMantissa.ofMantissaAndAccuracy]

/-- A quotient is represented by its whole part and by what the remainder tells of the rest. -/
theorem represents_quotient (numerator : Nat) {denominator : Nat} (positive : 0 < denominator) :
    Represents (digitsOf (numerator / denominator)
      (accuracyOfFraction (numerator % denominator) denominator)) (numerator / denominator) := by
  have whole : (denominator : ℚ) * (numerator / denominator : Nat) +
      (numerator % denominator : Nat) = numerator := by
    exact_mod_cast Nat.div_add_mod numerator denominator
  have below : ((numerator % denominator : Nat) : ℚ) < denominator := by
    exact_mod_cast Nat.mod_lt numerator positive
  have scale : (0 : ℚ) < denominator := by exact_mod_cast positive
  generalize numerator / denominator = quotient at whole ⊢
  generalize numerator % denominator = remainder at whole below ⊢
  have split : (numerator : ℚ) / denominator = quotient + remainder / denominator := by
    rw [← whole, add_div, mul_div_cancel_left₀ _ scale.ne']
  rw [split, accuracyOfFraction]
  by_cases none : remainder = 0
  · simp [none, Represents, ExtendedMantissa.ofMantissaAndAccuracy]
  have something : (0 : ℚ) < remainder / denominator := by positivity
  have part : (remainder : ℚ) / denominator < 1 := (div_lt_one scale).mpr below
  rw [if_neg none]
  rcases lt_trichotomy (2 * remainder) denominator with less | half | more
  · have small : (remainder : ℚ) / denominator < 1 / 2 := by
      rw [div_lt_div_iff₀ scale two_pos]
      exact_mod_cast (by omega : remainder * 2 < 1 * denominator)
    rw [compare_lt_iff_lt.mpr less]
    simpa [Represents, ExtendedMantissa.ofMantissaAndAccuracy, something] using small
  · have middle : (remainder : ℚ) / denominator = 1 / 2 := by
      rw [div_eq_div_iff scale.ne' two_ne_zero]
      exact_mod_cast (by omega : remainder * 2 = 1 * denominator)
    rw [compare_eq_iff_eq.mpr half, middle]
    simp [Represents, ExtendedMantissa.ofMantissaAndAccuracy]
  · have great : 1 / 2 < (remainder : ℚ) / denominator := by
      rw [div_lt_div_iff₀ two_pos scale]
      exact_mod_cast (by omega : 1 * denominator < remainder * 2)
    rw [compare_gt_iff_gt.mpr more]
    simp only [Represents, ExtendedMantissa.ofMantissaAndAccuracy, if_true]
    constructor <;> linarith

theorem Represents.shiftRightOne {digits : ExtendedMantissa} {number : ℚ}
    (represents : Represents digits number) :
    Represents digits.shiftRightOne (number / 2) := by
  obtain ⟨mantissa, roundBit, stickyBit⟩ := digits
  obtain ⟨half, rfl | rfl⟩ := Nat.even_or_odd' mantissa <;> cases roundBit <;> cases stickyBit <;>
    simp [Represents, ExtendedMantissa.shiftRightOne, Nat.mul_add_div] at represents ⊢ <;>
    (try constructor) <;> linarith

theorem Represents.shiftRight {digits : ExtendedMantissa} {number : ℚ}
    (represents : Represents digits number) (count : Nat) :
    Represents (digits >>> count) (number / 2 ^ count) := by
  show Represents (count.repeat ExtendedMantissa.shiftRightOne digits) _
  induction count with
  | zero => simpa [Nat.repeat] using represents
  | succ count inductionHypothesis =>
    rw [pow_succ, ← div_div]
    exact inductionHypothesis.shiftRightOne

/-- Digits are rounded by half a unit at most. -/
theorem Represents.rounded {digits : ExtendedMantissa} {number : ℚ}
    (represents : Represents digits number) :
    |(digits.roundedMantissa : ℚ) - number| ≤ 1 / 2 := by
  obtain ⟨mantissa, roundBit, stickyBit⟩ := digits
  have parity : mantissa % 2 = 0 ∨ mantissa % 2 = 1 := Nat.mod_two_eq_zero_or_one _
  rw [abs_le]
  cases roundBit <;> cases stickyBit <;> rcases parity with even | odd <;>
    simp_all [Represents, ExtendedMantissa.roundedMantissa, ExtendedMantissa.accuracy,
      Accuracy.roundToNearestEven] <;> (try constructor) <;> linarith

theorem roundedMantissa_bounds (digits : ExtendedMantissa) :
    digits.mantissa ≤ digits.roundedMantissa ∧ digits.roundedMantissa ≤ digits.mantissa + 1 := by
  obtain ⟨mantissa, roundBit, stickyBit⟩ := digits
  cases roundBit <;> cases stickyBit <;>
    simp only [ExtendedMantissa.roundedMantissa, ExtendedMantissa.accuracy,
      Accuracy.roundToNearestEven] <;> omega

theorem mantissa_shiftRight (digits : ExtendedMantissa) (count : Nat) :
    (digits >>> count).mantissa = digits.mantissa / 2 ^ count := by
  show (count.repeat ExtendedMantissa.shiftRightOne digits).mantissa = _
  induction count with
  | zero => simp [Nat.repeat]
  | succ count inductionHypothesis =>
    rw [pow_succ, ← Nat.div_div_eq_div_mul, ← inductionHypothesis]
    rfl

/-! ### Rounding -/

/-- A full mantissa with the exponent `last`, or the next one if rounding carried over, which is
half a unit at most away from the exact number. -/
def Rounded (sign : Sign) (last : Int) (exact : ℚ) (result : UnpackedFloat) : Prop :=
  ∃ mantissa exponent positive, result = .finite sign mantissa exponent positive ∧
    2 ^ 52 ≤ mantissa ∧ mantissa < 2 ^ 53 ∧ last ≤ exponent ∧ exponent ≤ last + 1 ∧
    |(mantissa : ℚ) * 2 ^ exponent - exact| ≤ 2 ^ last / 2

section

variable {mantissa : Nat} {exponent : Int}

theorem targetExponent_of_normal (normal : -1022 ≤ mantissa.log2 + exponent) :
    Format.binary64.targetExponent (totalExponent mantissa exponent) =
      mantissa.log2 + exponent - 52 := by
  show max ((mantissa.log2 + 1 + exponent : Int) - (53 : Nat)) (3 - 2 ^ 10 - (53 : Nat)) = _
  omega

theorem mantissa_digitsOf (accuracy : Accuracy) :
    (digitsOf mantissa accuracy).mantissa = mantissa := by
  cases accuracy with
  | exact => rfl
  | inexact half => cases half <;> rfl

/-- A mantissa with digits to spare is shifted until it fits. -/
theorem shiftToTargetExponent_of_enough (accuracy : Accuracy) (enough : 52 ≤ mantissa.log2)
    (normal : -1022 ≤ mantissa.log2 + exponent) :
    shiftToTargetExponent Format.binary64 mantissa exponent accuracy =
      (digitsOf mantissa accuracy >>> (mantissa.log2 - 52), mantissa.log2 + exponent - 52) := by
  have shift : (mantissa.log2 + exponent - 52 - exponent : Int).toNat = mantissa.log2 - 52 := by
    omega
  have last : exponent + ((mantissa.log2 - 52 : Nat) : Int) = mantissa.log2 + exponent - 52 := by
    omega
  rw [shiftToTargetExponent, targetExponent_of_normal normal, shiftToExponent, shift, last]

theorem shiftRight_bounds (accuracy : Accuracy) (enough : 52 ≤ mantissa.log2) :
    2 ^ 52 ≤ (digitsOf mantissa accuracy >>> (mantissa.log2 - 52)).mantissa ∧
      (digitsOf mantissa accuracy >>> (mantissa.log2 - 52)).mantissa < 2 ^ 53 := by
  obtain ⟨excess, log⟩ := Nat.exists_eq_add_of_le enough
  have nonzero : mantissa ≠ 0 := by
    rintro rfl
    rw [Nat.log2_zero] at enough
    omega
  obtain ⟨atLeast, below⟩ := (Nat.log2_eq_iff nonzero).mp log
  rw [mantissa_shiftRight, mantissa_digitsOf, log, Nat.add_sub_cancel_left,
    Nat.le_div_iff_mul_le (Nat.two_pow_pos _), Nat.div_lt_iff_lt_mul (Nat.two_pow_pos _),
    ← pow_add, ← pow_add]
  exact ⟨atLeast, below.trans_eq (congrArg (2 ^ ·) (by omega))⟩

/-- A mantissa that fits is not shifted any more; one that rounding carried over is halved. -/
theorem shiftToTargetExponent_again (full : 2 ^ 52 ≤ mantissa) (atMost : mantissa ≤ 2 ^ 53)
    (least : -1074 ≤ exponent) :
    let shifted := shiftToTargetExponent Format.binary64 mantissa exponent .exact
    2 ^ 52 ≤ shifted.1.mantissa ∧ shifted.1.mantissa < 2 ^ 53 ∧ exponent ≤ shifted.2 ∧
      shifted.2 ≤ exponent + 1 ∧
      (shifted.1.mantissa : ℚ) * 2 ^ shifted.2 = mantissa * 2 ^ exponent := by
  have enough : 52 ≤ mantissa.log2 := (Nat.le_log2 (by omega)).mpr full
  obtain ⟨isFull, isSmall⟩ := shiftRight_bounds .exact enough
  rw [shiftToTargetExponent_of_enough .exact enough (by omega)]
  refine ⟨isFull, isSmall, by omega, ?_⟩
  simp only [mantissa_shiftRight, mantissa_digitsOf]
  rcases Nat.lt_or_eq_of_le atMost with small | rfl
  · have log : mantissa.log2 = 52 := (Nat.log2_eq_iff (by omega)).mpr ⟨full, small⟩
    have same : ((52 : Nat) : Int) + exponent - 52 = exponent := by omega
    rw [log, same, Nat.sub_self, pow_zero, Nat.div_one]
    exact ⟨by omega, rfl⟩
  · have next : ((53 : Nat) : Int) + exponent - 52 = exponent + 1 := by omega
    rw [Nat.log2_two_pow, next, zpow_add_one₀ two_ne_zero]
    refine ⟨le_refl _, ?_⟩
    norm_num
    ring

/-- A mantissa with enough digits is rounded to the nearest that fits. -/
theorem rounded_roundWithAccuracy (sign : Sign) {accuracy : Accuracy} {number : ℚ}
    (enough : 52 ≤ mantissa.log2) (normal : -1022 ≤ mantissa.log2 + exponent)
    (represents : Represents (digitsOf mantissa accuracy) number) :
    Rounded sign (mantissa.log2 + exponent - 52) (number * 2 ^ exponent)
      (roundWithAccuracy Format.binary64 sign mantissa exponent accuracy) := by
  have near := (represents.shiftRight (mantissa.log2 - 52)).rounded
  obtain ⟨full, small⟩ := shiftRight_bounds accuracy enough
  have first := shiftToTargetExponent_of_enough accuracy enough normal
  generalize digitsOf mantissa accuracy >>> (mantissa.log2 - 52) = digits at near full small first
  obtain ⟨notLess, notMore⟩ := roundedMantissa_bounds digits
  have last : -1074 ≤ (mantissa.log2 + exponent - 52 : Int) := by omega
  obtain ⟨isFull, isSmall, notBefore, notAfter, same⟩ :=
    shiftToTargetExponent_again (full.trans notLess) (notMore.trans small) last
  have positive := Nat.lt_of_lt_of_le (Nat.two_pow_pos 52) isFull
  refine ⟨_, _, positive, ?_, isFull, isSmall, notBefore, notAfter, ?_⟩
  · unfold roundWithAccuracy
    rw [first]
    exact dif_neg positive.ne'
  · -- What was shifted out is told by the bits, and the exponents make up for the shift.
    have scale : number * 2 ^ exponent =
        number / 2 ^ (mantissa.log2 - 52) * 2 ^ (mantissa.log2 + exponent - 52 : Int) := by
      rw [div_mul_eq_mul_div, mul_div_assoc, ← zpow_natCast, ← zpow_sub₀ two_ne_zero]
      congr 2
      omega
    have unit : (0 : ℚ) < 2 ^ (mantissa.log2 + exponent - 52 : Int) := zpow_pos two_pos _
    rw [same, scale, ← sub_mul, abs_mul, abs_of_pos unit]
    calc |(digits.roundedMantissa : ℚ) - number / 2 ^ (mantissa.log2 - 52)| *
          2 ^ (mantissa.log2 + exponent - 52 : Int)
        ≤ 1 / 2 * 2 ^ (mantissa.log2 + exponent - 52 : Int) := by gcongr
      _ = 2 ^ (mantissa.log2 + exponent - 52 : Int) / 2 := by ring

/-- The same for a mantissa that may have to be filled up first. -/
theorem rounded_round (sign : Sign) (positive : 0 < mantissa)
    (normal : -1022 ≤ mantissa.log2 + exponent) :
    Rounded sign (mantissa.log2 + exponent - 52) (mantissa * 2 ^ exponent)
      (UnpackedFloat.round Format.binary64 sign mantissa exponent) := by
  let missing := 52 - mantissa.log2
  have shift : (exponent - (mantissa.log2 + exponent - 52) : Int).toNat = missing := by omega
  have log : (mantissa <<< missing).log2 = mantissa.log2 + missing := by
    obtain ⟨atLeast, below⟩ := (Nat.log2_eq_iff positive.ne').mp rfl
    rw [Nat.shiftLeft_eq, Nat.log2_eq_iff (by positivity), pow_add, add_right_comm, pow_add]
    exact ⟨by gcongr, by gcongr⟩
  have same : ((mantissa <<< missing : Nat) : ℚ) * 2 ^ (exponent - (missing : Int)) =
      mantissa * 2 ^ exponent := by
    rw [Nat.shiftLeft_eq, Nat.cast_mul, Nat.cast_pow, Nat.cast_two, zpow_sub₀ two_ne_zero,
      zpow_natCast]
    field_simp
  have last : ((mantissa.log2 + missing : Nat) : Int) + (exponent - missing) - 52 =
      mantissa.log2 + exponent - 52 := by omega
  have enough : 52 ≤ (mantissa <<< missing).log2 := by omega
  have isNormal : -1022 ≤ ((mantissa <<< missing).log2 : Int) + (exponent - missing) := by omega
  have filled := rounded_roundWithAccuracy sign enough isNormal (represents_exact _)
  rw [log, last, same] at filled
  rw [UnpackedFloat.round, targetExponent_of_normal normal, decreaseExponent, shift]
  exact filled

end

end Double

end Holdout
