/-
This file says which numbers doubles hold. Counts below a limit are held exactly. A quotient of two
of them is held up to a small part of itself, which is not enough to confuse it with the quotient of
the next count.
-/

import Holdout.Proofs.Double.Rounding
import Holdout.Proofs.Scores

namespace Holdout

namespace Double

open Float.Model Float.Model.UnpackedFloat

/-! ### Doubles that hold a number -/

/-- The double holds a positive number, with a full mantissa. -/
def Holds (double : Float) (number : ℚ) : Prop :=
  ∃ mantissa exponent positive,
    double.toModel.unpack = .finite .positive mantissa exponent positive ∧
      2 ^ 52 ≤ mantissa ∧ mantissa < 2 ^ 53 ∧ number = mantissa * 2 ^ exponent

section

variable {last : Int} {exact : ℚ} {result : UnpackedFloat}

theorem Rounded.holds (rounded : Rounded .positive last exact result) (least : -1074 ≤ last)
    (greatest : last ≤ 970) :
    ∃ number, Holds (.ofModel (pack result)) number ∧ (∃ units : Nat, number = units * 2 ^ last) ∧
      |number - exact| ≤ 2 ^ last / 2 ∧ 2 ^ last / 2 ≤ number / 2 ^ 53 := by
  obtain ⟨mantissa, exponent, positive, rfl, full, small, notBefore, notAfter, near⟩ := rounded
  obtain ⟨carry, rfl⟩ := Int.le.dest notBefore
  have whole : (mantissa : ℚ) * 2 ^ (last + carry) =
      ((mantissa * 2 ^ carry : Nat) : ℚ) * 2 ^ last := by
    rw [zpow_add₀ two_ne_zero, zpow_natCast]
    push_cast
    ring
  refine ⟨mantissa * 2 ^ (last + carry), ⟨mantissa, last + carry, positive,
    unpack_pack_of_full _ positive full small (by omega) (by omega), full, small, rfl⟩,
    ⟨_, whole⟩, near, ?_⟩
  have units : 2 ^ 52 ≤ mantissa * 2 ^ carry :=
    full.trans (Nat.le_mul_of_pos_right _ (Nat.two_pow_pos carry))
  have unitsCast : (2 : ℚ) ^ 52 ≤ ((mantissa * 2 ^ carry : Nat) : ℚ) := by exact_mod_cast units
  have unit : (0 : ℚ) < 2 ^ last := zpow_pos two_pos _
  rw [whole, div_le_div_iff₀ two_pos (by positivity)]
  calc (2 : ℚ) ^ last * 2 ^ 53 = 2 ^ 52 * 2 ^ last * 2 := by ring
    _ ≤ ((mantissa * 2 ^ carry : Nat) : ℚ) * 2 ^ last * 2 := by gcongr

/-- A number that needs no more than the digits that are there is not changed by rounding. -/
theorem Rounded.holds_exact (rounded : Rounded .positive last exact result) (least : -1074 ≤ last)
    (greatest : last ≤ 970) {units : Nat} (whole : exact = units * 2 ^ last) :
    Holds (.ofModel (pack result)) exact := by
  obtain ⟨number, holds, ⟨others, rfl⟩, near, -⟩ := rounded.holds least greatest
  have unit : (0 : ℚ) < 2 ^ last := zpow_pos two_pos _
  have close : |((others : Int) - units : Int)| < 1 := by
    have half : |(others : ℚ) - units| ≤ 1 / 2 := by
      rw [whole, ← sub_mul, abs_mul, abs_of_pos unit, div_eq_mul_one_div, mul_comm] at near
      exact le_of_mul_le_mul_left near unit
    have below : |(others : ℚ) - units| < 1 := half.trans_lt (by norm_num)
    exact_mod_cast below
  have same : others = units := by
    have := Int.abs_lt_one_iff.mp close
    omega
  rw [whole, ← same]
  exact holds

theorem Rounded.isFinite {sign : Sign} (rounded : Rounded sign last exact result)
    (least : -1074 ≤ last) (greatest : last ≤ 970) :
    (Float.ofModel (pack result)).isFinite = true := by
  obtain ⟨mantissa, exponent, positive, rfl, full, small, notBefore, notAfter, -⟩ := rounded
  show (pack (.finite sign mantissa exponent positive)).unpack.isFinite = true
  rw [unpack_pack_of_full _ positive full small (by omega) (by omega)]
  rfl

end

/-- Numbers with a full mantissa and one exponent lie between two powers of two. -/
theorem bounds_of_full {mantissa : Nat} (exponent : Int) (full : 2 ^ 52 ≤ mantissa)
    (small : mantissa < 2 ^ 53) :
    (2 : ℚ) ^ (52 + exponent) ≤ mantissa * 2 ^ exponent ∧
      (mantissa : ℚ) * 2 ^ exponent < 2 ^ (53 + exponent) := by
  have fullCast : (2 : ℚ) ^ (52 : Int) ≤ mantissa := by exact_mod_cast full
  have smallCast : (mantissa : ℚ) < 2 ^ (53 : Int) := by exact_mod_cast small
  rw [zpow_add₀ two_ne_zero, zpow_add₀ two_ne_zero]
  exact ⟨by gcongr, by gcongr⟩

/-- The exponent of a number between two powers of two. -/
theorem exponent_bounds (low high : Int) {mantissa : Nat} {exponent : Int}
    (full : 2 ^ 52 ≤ mantissa) (small : mantissa < 2 ^ 53)
    (atLeast : (2 : ℚ) ^ low ≤ mantissa * 2 ^ exponent)
    (below : (mantissa : ℚ) * 2 ^ exponent < 2 ^ high) :
    low - 52 ≤ exponent ∧ exponent < high - 52 := by
  obtain ⟨fullBound, smallBound⟩ := bounds_of_full exponent full small
  have notTooLow : (2 : ℚ) ^ low < 2 ^ (53 + exponent) := atLeast.trans_lt smallBound
  have notTooHigh : (2 : ℚ) ^ (52 + exponent) < 2 ^ high := fullBound.trans_lt below
  rw [zpow_lt_zpow_iff_right₀ one_lt_two] at notTooLow notTooHigh
  omega

theorem Holds.isNaN {double : Float} {number : ℚ} (holds : Holds double number) :
    double.isNaN = false := by
  obtain ⟨mantissa, exponent, positive, shape, -⟩ := holds
  show double.toModel.unpack.isNaN = false
  rw [shape]
  rfl

/-- Doubles are in the order of the numbers that they hold. -/
theorem lt_of_holds {first second : Float} {number other : ℚ} (holds : Holds first number)
    (holdsOther : Holds second other) (less : number < other) : first < second := by
  rw [Score.lt_iff_height holds.isNaN holdsOther.isNaN, Score.height, Score.height]
  obtain ⟨mantissa, exponent, positive, shape, full, small, rfl⟩ := holds
  obtain ⟨otherMantissa, otherExponent, otherPositive, otherShape, otherFull, otherSmall, rfl⟩ :=
    holdsOther
  rw [shape, otherShape]
  show toLex ((1 : Int), toLex (exponent, (mantissa : Int))) <
    toLex ((1 : Int), toLex (otherExponent, (otherMantissa : Int)))
  rw [Prod.Lex.toLex_lt_toLex, Prod.Lex.toLex_lt_toLex]
  refine Or.inr ⟨rfl, ?_⟩
  rcases lt_trichotomy exponent otherExponent with below | rfl | above
  · exact Or.inl below
  · refine Or.inr ⟨rfl, ?_⟩
    show (mantissa : Int) < otherMantissa
    exact_mod_cast lt_of_mul_lt_mul_right less (zpow_pos two_pos _).le
  · -- A full mantissa with a greater exponent would be a greater number.
    have atLeast : (2 : ℚ) ^ (52 + exponent) ≤ otherMantissa * 2 ^ otherExponent :=
      (bounds_of_full exponent full small).1.trans less.le
    have below := (bounds_of_full otherExponent otherFull otherSmall).2
    have bounds := exponent_bounds _ _ otherFull otherSmall atLeast below
    omega

/-! ### Counts -/

theorem normalize_of_pos {mantissa : Nat} {exponent : Int} (positive : 0 < mantissa)
    (zeroSign : Sign) :
    UnpackedFloat.normalize Format.binary64 mantissa exponent zeroSign =
      UnpackedFloat.round Format.binary64 .positive mantissa exponent := by
  rw [UnpackedFloat.normalize, Int.compare_eq_gt.mpr (by omega), Int.toNat_natCast]

/-- The word that holds a count is converted exactly, if a mantissa can hold it. -/
theorem holds_toFloat {word : UInt64} (positive : 0 < word.toNat) (small : word.toNat < 2 ^ 53) :
    Holds word.toFloat word.toNat := by
  have log : word.toNat.log2 < 53 := (Nat.log2_lt positive.ne').mpr small
  have normal : -1022 ≤ (word.toNat.log2 : Int) + 0 := by omega
  have rounded := rounded_round .positive positive normal
  rw [← normalize_of_pos positive .positive, zpow_zero, mul_one] at rounded
  have unit : (2 : ℚ) ^ ((52 - word.toNat.log2 : Nat) : Int) *
      2 ^ (word.toNat.log2 + 0 - 52 : Int) = 1 := by
    rw [← zpow_add₀ two_ne_zero]
    exact zpow_eq_one_iff_right₀ two_pos.le (by norm_num) |>.mpr (by omega)
  have whole : (word.toNat : ℚ) =
      (word.toNat * 2 ^ (52 - word.toNat.log2) : Nat) * 2 ^ (word.toNat.log2 + 0 - 52 : Int) := by
    rw [Nat.cast_mul, Nat.cast_pow, Nat.cast_two, mul_assoc, ← zpow_natCast, unit, mul_one]
  exact rounded.holds_exact (by omega) (by omega) whole

theorem Holds.mul_one {double : Float} {number : ℚ} (holds : Holds double number)
    (atLeast : 1 ≤ number) (below : number < 2 ^ 53) :
    Holds (double * Float.ofBits 0x3FF0000000000000) number := by
  obtain ⟨mantissa, exponent, positive, shape, full, small, rfl⟩ := holds
  have bounds := exponent_bounds 0 53 full small (by simpa using atLeast) (by exact_mod_cast below)
  have log : (mantissa * 2 ^ 52).log2 = 104 := by
    rw [Nat.log2_eq_iff (by positivity)]
    omega
  have normal : -1022 ≤ ((mantissa * 2 ^ 52).log2 : Int) + (exponent + -52) := by omega
  have rounded := rounded_roundWithAccuracy .positive (by omega) normal (represents_exact _)
  have same : ((mantissa * 2 ^ 52 : Nat) : ℚ) * 2 ^ (exponent + -52) = mantissa * 2 ^ exponent := by
    rw [zpow_add₀ two_ne_zero]
    push_cast
    norm_num
    ring
  have last : ((mantissa * 2 ^ 52).log2 : Int) + (exponent + -52) - 52 = exponent := by omega
  rw [same, last] at rounded
  have product : double * Float.ofBits 0x3FF0000000000000 =
      .ofModel (pack (roundWithAccuracy Format.binary64 .positive (mantissa * 2 ^ 52)
        (exponent + -52) .exact)) := by
    show Float.ofModel (pack (UnpackedFloat.mul Format.binary64 double.toModel.unpack _)) = _
    rw [shape]
    rfl
  rw [product]
  exact rounded.holds_exact (by omega) (by omega) rfl

/-- A count below a limit is held exactly. -/
theorem holds_ofNat {count : Nat} (positive : 0 < count) (small : count < 2 ^ 53) :
    Holds (Float.ofNat count) count := by
  have word : count.toUInt64.toNat = count := by
    simp only [Nat.toUInt64, UInt64.toNat_ofNat']
    omega
  have made : Float.ofNat count = count.toUInt64.toFloat * Float.ofBits 0x3FF0000000000000 := by
    show Float.ofScientific count false 0 = _
    rw [Float.ofScientific, dif_pos ⟨small, by decide⟩]
    rfl
  have holds : Holds count.toUInt64.toFloat count.toUInt64.toNat :=
    holds_toFloat (by omega) (by omega)
  rw [word] at holds
  rw [made]
  exact holds.mul_one (by exact_mod_cast positive) (by exact_mod_cast small)

/-! ### Quotients -/

theorem divCore_of_full {mantissa other : Nat} {exponent otherExponent : Int}
    (log : mantissa.log2 = 52) (otherLog : other.log2 = 52)
    (normal : -1021 ≤ exponent - otherExponent) :
    divCore Format.binary64 mantissa exponent other otherExponent =
      (mantissa * 2 ^ 53 / other, exponent - otherExponent - 53,
        accuracyOfFraction (mantissa * 2 ^ 53 % other) other) := by
  have target : min (exponent - otherExponent) (Format.binary64.targetExponent
      (totalExponent mantissa exponent - totalExponent other otherExponent)) =
        exponent - otherExponent - 53 := by
    show min _ (max ((mantissa.log2 + 1 + exponent : Int) - (other.log2 + 1 + otherExponent) -
      (53 : Nat)) (3 - 2 ^ 10 - (53 : Nat))) = _
    omega
  have shift : (exponent - otherExponent - (exponent - otherExponent - 53)).toNat = 53 := by omega
  simp only [divCore, target, shift, Nat.shiftLeft_eq]

/-- A quotient is rounded to a double that is away from it by a small part of itself at most. -/
theorem Holds.div {first second : Float} {number other : ℚ} (holds : Holds first number)
    (holdsOther : Holds second other) (range : 1 ≤ number ∧ number < 2 ^ 53)
    (otherRange : 1 ≤ other ∧ other < 2 ^ 53) :
    ∃ quotient, Holds (first / second) quotient ∧
      |quotient - number / other| ≤ quotient / 2 ^ 53 := by
  obtain ⟨mantissa, exponent, positive, shape, full, small, rfl⟩ := holds
  obtain ⟨otherMantissa, otherExponent, otherPositive, otherShape, otherFull, otherSmall, rfl⟩ :=
    holdsOther
  have bounds := exponent_bounds 0 53 full small (by simpa using range.1)
    (by exact_mod_cast range.2)
  have otherBounds := exponent_bounds 0 53 otherFull otherSmall (by simpa using otherRange.1)
    (by exact_mod_cast otherRange.2)
  have log : mantissa.log2 = 52 := (Nat.log2_eq_iff positive.ne').mpr ⟨full, small⟩
  have otherLog : otherMantissa.log2 = 52 :=
    (Nat.log2_eq_iff otherPositive.ne').mpr ⟨otherFull, otherSmall⟩
  have core := divCore_of_full log otherLog (by omega : -1021 ≤ exponent - otherExponent)
  have represents := represents_quotient (mantissa * 2 ^ 53) otherPositive
  have atLeast : 2 ^ 52 ≤ mantissa * 2 ^ 53 / otherMantissa :=
    (Nat.le_div_iff_mul_le otherPositive).mpr (by omega)
  have atMost : mantissa * 2 ^ 53 / otherMantissa < 2 ^ 54 :=
    (Nat.div_lt_iff_lt_mul otherPositive).mpr (by omega)
  generalize mantissa * 2 ^ 53 / otherMantissa = digits at core represents atLeast atMost
  have enough : 52 ≤ digits.log2 := (Nat.le_log2 (by omega)).mpr atLeast
  have few : digits.log2 < 54 := (Nat.log2_lt (by omega)).mpr atMost
  have normal : -1022 ≤ (digits.log2 : Int) + (exponent - otherExponent - 53) := by omega
  have rounded := rounded_roundWithAccuracy .positive enough normal represents
  obtain ⟨quotient, holds, -, near, relative⟩ := rounded.holds (by omega) (by omega)
  have exact : ((mantissa * 2 ^ 53 : Nat) : ℚ) / otherMantissa *
      2 ^ (exponent - otherExponent - 53) =
        mantissa * 2 ^ exponent / (otherMantissa * 2 ^ otherExponent) := by
    rw [zpow_sub₀ two_ne_zero, zpow_sub₀ two_ne_zero]
    push_cast
    field_simp
  have result : first / second = .ofModel (pack (roundWithAccuracy Format.binary64 .positive digits
      (exponent - otherExponent - 53)
      (accuracyOfFraction (mantissa * 2 ^ 53 % otherMantissa) otherMantissa))) := by
    show Float.ofModel (pack (UnpackedFloat.div Format.binary64 first.toModel.unpack
      second.toModel.unpack)) = _
    rw [shape, otherShape, UnpackedFloat.div, core]
    rfl
  rw [exact] at near
  rw [result]
  exact ⟨quotient, holds, near.trans relative⟩

/-- Two quotients of counts are told apart, whatever they are rounded to. -/
theorem div_lt_div_of_holds {first second count : Float} {number other size : ℚ}
    (holds : Holds first number) (holdsOther : Holds second other) (holdsSize : Holds count size)
    (atLeast : 1 ≤ number) (next : number + 1 ≤ other) (atMost : other ≤ 2 ^ 52)
    (range : 1 ≤ size ∧ size < 2 ^ 53) : first / count < second / count := by
  obtain ⟨quotient, holdsQuotient, near⟩ :=
    holds.div holdsSize ⟨atLeast, by linarith⟩ range
  obtain ⟨greater, holdsGreater, nearGreater⟩ :=
    holdsOther.div holdsSize ⟨by linarith, by linarith⟩ range
  refine lt_of_holds holdsQuotient holdsGreater (not_le.mp fun notLess => ?_)
  -- Were they not, one unit would be no more than what rounding may take from both.
  have positive : 0 < size := by linarith
  have scaled {one value : ℚ} (close : |one - value / size| ≤ one / 2 ^ 53) :
      |one * size - value| ≤ one * size / 2 ^ 53 := by
    have product := mul_le_mul_of_nonneg_right close positive.le
    rw [← abs_of_pos positive, ← abs_mul, abs_of_pos positive, sub_mul,
      div_mul_cancel₀ _ positive.ne'] at product
    linarith
  have first := abs_le.mp (scaled near)
  have second := abs_le.mp (scaled nearGreater)
  have ordered := mul_le_mul_of_nonneg_right notLess positive.le
  linarith [first.1, first.2, second.1, second.2]

end Double

end Holdout
