/-
This file chooses the decimal that stands for a double in text: the fewest digits that read back
to the same double, and of those the nearest to its exact value. On the grid of a given number of
digits only the two neighbours of the exact value have to be tried, the one below and the one
above. Whether a decimal reads back is decided by reading it, so a chosen decimal reads back by
construction. Two neighbours can be equally near; which of them is taken is for the caller to say.
-/

import Holdout.Decimal.Basic

namespace Holdout

namespace Decimal

/-- Which of two equally near decimals is taken. -/
inductive Tie where
  /-- The one with the even last digit. -/
  | toEven
  /-- The greater one. -/
  | upward
deriving DecidableEq, Repr

/-- Whether the decimal below is taken, both being equally near. -/
def Tie.takesLower (tie : Tie) (lower : Nat) : Bool :=
  match tie with
  | .toEven => lower % 2 == 0
  | .upward => false

/-- Whether a decimal is read as the magnitude of `number`. -/
def readsBack (number : Float) (decimal : Decimal) : Bool :=
  decimal.toFloat.toBits.toNat == number.toBits.toNat % twoTo 63

/-- The nearest decimal of `count` digits that reads back, if one of that length does. -/
def withDigits? (tie : Tie) (number : Float) (count : Nat) : Option Decimal :=
  let whole := exact number
  let length := (digitsOf whole.digits).length
  if length ≤ count then
    if readsBack number whole then some whole else none
  else
    let unit := tenTo (length - count)
    let lower := whole.digits / unit
    let rest := whole.digits % unit
    let below : Decimal := ⟨lower, whole.exponent + (length - count : Nat)⟩
    let above : Decimal := ⟨lower + 1, whole.exponent + (length - count : Nat)⟩
    match readsBack number below, readsBack number above with
    | true, true =>
      if 2 * rest < unit ∨ 2 * rest = unit ∧ tie.takesLower lower then some below else some above
    | true, false => some below
    | false, true => some above
    | false, false => none

/-- The fewest digits that read back to the magnitude of a finite double. Seventeen always
suffice; the exact value stands behind them so that the search needs no proof of it. -/
def shortest (tie : Tie) (number : Float) : Decimal :=
  (((List.range 17).findSome? fun index => withDigits? tie number (index + 1)).getD
    (exact number)).normal

end Decimal

end Holdout
