/-
This file says how near a length of time is to the number of seconds that it was made of. It is a
whole number of nanoseconds, half a nanosecond away at most; so a number of seconds that is
positive, but no more than half a nanosecond, becomes no time at all, and every greater one some
time.
-/

import Holdout.Duration
import Holdout.Proofs.Double.Reading

namespace Holdout

namespace Duration

/-! ### Rounding -/

section

variable (numerator : Nat) {denominator : Nat} (positive : 0 < denominator)

include positive

/-- A quotient is rounded by half of one at most. -/
theorem abs_roundedQuotient_sub_le :
    |(roundedQuotient numerator denominator : ℚ) - numerator / denominator| ≤ 1 / 2 := by
  have whole : (denominator : ℚ) * (numerator / denominator : Nat) +
      (numerator % denominator : Nat) = numerator := by
    exact_mod_cast Nat.div_add_mod numerator denominator
  have below : ((numerator % denominator : Nat) : ℚ) < denominator := by
    exact_mod_cast Nat.mod_lt numerator positive
  have scale : (0 : ℚ) < denominator := by exact_mod_cast positive
  rw [roundedQuotient]
  generalize numerator / denominator = quotient at whole ⊢
  generalize numerator % denominator = rest at whole below ⊢
  have split : (numerator : ℚ) / denominator = quotient + rest / denominator := by
    rw [← whole, add_div, mul_div_cancel_left₀ _ scale.ne']
  have part : (0 : ℚ) ≤ rest / denominator := by positivity
  rw [split]
  split_ifs with down
  · have half : (2 : ℚ) * rest ≤ denominator := by
      exact_mod_cast (show 2 * rest ≤ denominator by omega)
    have small : (rest : ℚ) / denominator ≤ 1 / 2 := by
      rw [div_le_div_iff₀ scale two_pos]
      linarith
    rw [sub_add_cancel_left, abs_neg, abs_of_nonneg part]
    exact small
  · have half : (denominator : ℚ) ≤ 2 * rest := by
      exact_mod_cast (show denominator ≤ 2 * rest by omega)
    have great : (1 : ℚ) / 2 ≤ rest / denominator := by
      rw [div_le_div_iff₀ two_pos scale]
      linarith
    have less : (rest : ℚ) / denominator < 1 := (div_lt_one scale).mpr below
    rw [Nat.cast_succ, abs_le]
    constructor <;> linarith

/-- A quotient is rounded to nothing exactly if it is half of one at most. -/
theorem roundedQuotient_pos_iff :
    0 < roundedQuotient numerator denominator ↔ denominator < 2 * numerator := by
  have whole := Nat.div_add_mod numerator denominator
  have below := Nat.mod_lt numerator positive
  rw [roundedQuotient]
  rcases Nat.eq_zero_or_pos (numerator / denominator) with none | some
  · rw [none, Nat.mul_zero, Nat.zero_add] at whole
    rw [none, whole]
    split_ifs <;> omega
  · have atLeast : denominator ≤ numerator := (Nat.div_pos_iff.mp some).2
    split_ifs <;> omega

end

/-- The nanoseconds nearest to a number of seconds are half a nanosecond away at most, and none
exactly if there is no more than half of one. -/
theorem nearest_spec (mantissa : Nat) (exponent : Int) :
    |(nearest mantissa exponent : ℚ) - mantissa * 2 ^ exponent * perSecond| ≤ 1 / 2 ∧
      (0 < nearest mantissa exponent ↔ (1 : ℚ) / 2 < mantissa * 2 ^ exponent * perSecond) := by
  cases exponent with
  | ofNat exponent =>
    have exact : (nearest mantissa (.ofNat exponent) : ℚ) =
        mantissa * 2 ^ (Int.ofNat exponent) * perSecond := by
      rw [nearest, twoTo, Nat.pow_eq, Int.ofNat_eq_natCast, zpow_natCast]
      push_cast
      rfl
    rw [← exact, sub_self, abs_zero]
    refine ⟨by norm_num, fun some => ?_, fun some => ?_⟩
    · have one : (1 : ℚ) ≤ nearest mantissa (.ofNat exponent) := by exact_mod_cast some
      linarith
    · have positive : (0 : ℚ) < nearest mantissa (.ofNat exponent) := lt_trans (by norm_num) some
      exact_mod_cast positive
  | negSucc exponent =>
    have positive : 0 < twoTo (exponent + 1) := Nat.two_pow_pos _
    have scale : (0 : ℚ) < twoTo (exponent + 1) := by exact_mod_cast positive
    have exact : (mantissa : ℚ) * 2 ^ (Int.negSucc exponent) * perSecond =
        (mantissa * perSecond : Nat) / (twoTo (exponent + 1) : Nat) := by
      rw [zpow_negSucc, twoTo, Nat.pow_eq]
      push_cast
      ring
    rw [exact]
    refine ⟨abs_roundedQuotient_sub_le _ positive, ?_⟩
    rw [nearest, roundedQuotient_pos_iff _ positive, div_lt_div_iff₀ two_pos scale]
    constructor
    · intro more
      exact_mod_cast (show 1 * twoTo (exponent + 1) < mantissa * perSecond * 2 by omega)
    · intro more
      have moreNat : 1 * twoTo (exponent + 1) < mantissa * perSecond * 2 := by exact_mod_cast more
      omega

/-! ### Seconds -/

/-- A length of time in seconds. -/
def inSeconds (duration : Duration) : ℚ := duration.nanoseconds / perSecond

/-- Half a nanosecond in seconds. -/
def halfNanosecond : ℚ := 1 / 2 / perSecond

theorem perSecond_pos : (0 : ℚ) < perSecond := by norm_num [perSecond]

/-- A positive number of seconds that has a length has one that is half a nanosecond away at most,
and that is no time exactly if the number is half a nanosecond at most. -/
theorem ofSeconds?_near {seconds : Float} {duration : Duration} (positive : 0 < seconds)
    (finite : seconds.isFinite = true) (given : ofSeconds? seconds = some duration) :
    |duration.inSeconds - Double.reading seconds| ≤ halfNanosecond ∧
      (0 < duration.inSeconds ↔ halfNanosecond < Double.reading seconds) := by
  obtain ⟨mantissa, exponent, isPositive, shape⟩ :
      ∃ mantissa exponent isPositive,
        seconds.toModel.unpack = .finite .positive mantissa exponent isPositive := by
    rcases Double.pos_iff.mp positive with infinite | number
    · have bounded : seconds.toModel.unpack.isFinite = true := finite
      rw [infinite] at bounded
      cases bounded
    · exact number
  have made : duration = ⟨nearest mantissa exponent⟩ := by
    rw [ofSeconds?, Double.binaryParts_of_unpack shape] at given
    split_ifs at given
    exact (Option.some.inj given).symm
  have read : Double.reading seconds = mantissa * 2 ^ exponent := by
    simp only [Double.reading, shape]
  obtain ⟨near, some⟩ := nearest_spec mantissa exponent
  have scale := perSecond_pos
  rw [made, read, inSeconds, halfNanosecond]
  constructor
  · have scaled : (nearest mantissa exponent : ℚ) / perSecond - mantissa * 2 ^ exponent =
        ((nearest mantissa exponent : ℚ) - mantissa * 2 ^ exponent * perSecond) / perSecond := by
      rw [sub_div, mul_div_cancel_right₀ _ scale.ne']
    rw [scaled, abs_div, abs_of_pos scale]
    gcongr
  · rw [div_pos_iff_of_pos_right scale, Nat.cast_pos, some, div_lt_iff₀ scale]

end Duration

end Holdout
