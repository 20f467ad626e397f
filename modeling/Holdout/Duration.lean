/-
This file defines lengths of time in whole nanoseconds. A number of seconds becomes the nearest
one, a tie the even one. In messages a length is shown in the largest unit that it fills, with all
digits that it needs.
-/

import Holdout.Decimal.Basic

namespace Holdout

/-- A length of time. -/
structure Duration where
  nanoseconds : Nat
deriving DecidableEq, Repr, Inhabited

namespace Duration

/-- The nanoseconds of a second. -/
def perSecond : Nat := 1000000000

/-- The nanoseconds of a millisecond. -/
def perMillisecond : Nat := 1000000

/-- The nanoseconds of a microsecond. -/
def perMicrosecond : Nat := 1000

/-- The length with these seconds and nanoseconds. -/
def ofParts (seconds nanoseconds : Nat) : Duration := ⟨seconds * perSecond + nanoseconds⟩

/-- The length of some milliseconds. -/
def ofMilliseconds (milliseconds : Nat) : Duration := ⟨milliseconds * perMillisecond⟩

/-- The whole seconds of a length. -/
def seconds (duration : Duration) : Nat := duration.nanoseconds / perSecond

/-- The nanoseconds of a length beyond its whole seconds. -/
def subsecond (duration : Duration) : Nat := duration.nanoseconds % perSecond

/-- A quotient rounded to the nearest natural number, a tie to the even one. -/
def roundedQuotient (numerator denominator : Nat) : Nat :=
  let quotient := numerator / denominator
  let rest := numerator % denominator
  if 2 * rest < denominator ∨ 2 * rest = denominator ∧ quotient % 2 = 0 then quotient
  else quotient + 1

/-- The nanoseconds nearest to `mantissa * 2 ^ exponent` seconds. -/
def nearest (mantissa : Nat) : Int → Nat
  | .ofNat exponent => mantissa * twoTo exponent * perSecond
  | .negSucc exponent => roundedQuotient (mantissa * perSecond) (twoTo (exponent + 1))

/-- The length nearest to a number of seconds, if that is a number from zero up to but not
including `2 ^ 64`. -/
def ofSeconds? (seconds : Float) : Option Duration :=
  if 0 ≤ seconds ∧ seconds < 18446744073709551616 then
    let parts := Decimal.binaryParts seconds
    some ⟨nearest parts.1 parts.2⟩
  else none

/-- A fraction with this many places, without the zeros at its end, behind a point if anything is
left. -/
def fractionText (places fraction : Nat) : List Char :=
  match ((Decimal.padded places fraction).reverse.dropWhile (· == '0')).reverse with
  | [] => []
  | kept => '.' :: kept

/-- A length in a unit of `10 ^ places` nanoseconds. -/
def inUnit (places : Nat) (unit : String) (nanoseconds : Nat) : String :=
  String.ofList (Decimal.digitsOf (nanoseconds / tenTo places) ++
    fractionText places (nanoseconds % tenTo places)) ++ unit

/-- A length as messages show it. -/
def inMessage (duration : Duration) : String :=
  let nanoseconds := duration.nanoseconds
  if perSecond ≤ nanoseconds then inUnit 9 "s" nanoseconds
  else if perMillisecond ≤ nanoseconds then inUnit 6 "ms" nanoseconds
  else if perMicrosecond ≤ nanoseconds then inUnit 3 "µs" nanoseconds
  else inUnit 0 "ns" nanoseconds

end Duration

end Holdout
