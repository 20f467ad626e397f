/-
This file says which number a JSON numeral is. A whole number that fits in 64 bits is that number.
Any other numeral becomes a double in two steps: its first digits, as many as fit in 64 bits, are
taken as a whole number, and that is multiplied or divided by one power of ten. Both steps round,
so a numeral of many digits can end up beside the nearest double. Up to fifteen digits and the
power twenty-two both numbers are doubles themselves, and the nearest one is met.
-/

import Holdout.Decimal.Numeral
import Holdout.Json.Value

namespace Holdout

namespace Json

/-- Appends digits to a number while it stays below `2 ^ 64`, and gives the digits that are left. -/
def appendDigits (number : Nat) : List Char → Nat × List Char
  | [] => (number, [])
  | digit :: rest =>
    let next := 10 * number + Decimal.digitValue digit
    if next < twoTo 64 then appendDigits next rest else (number, digit :: rest)

/-- The power of ten with a natural exponent, as a double. -/
def powerOfTen (exponent : Nat) : Float := (⟨1, exponent⟩ : Decimal).toFloat

/-- A number below `2 ^ 64` times a power of ten, in double arithmetic, unless that lies past the
largest double. The powers of ten end at the exponent 308, so a number can be divided twice; below
the exponent -616 nothing of it is left. -/
def scaled? (number : Nat) (exponent : Int) : Option Float :=
  let start := Float.ofNat number
  if number = 0 then some start
  else match exponent with
    | .ofNat exponent =>
      if exponent ≤ 308 ∧ (start * powerOfTen exponent).isFinite then
        some (start * powerOfTen exponent)
      else none
    | .negSucc exponent =>
      if exponent < 308 then some (start / powerOfTen (exponent + 1))
      else if exponent < 616 then some (start / powerOfTen 308 / powerOfTen (exponent - 307))
      else some 0.0

/-- The double that a numeral with a sign, digits before and after its point and an exponent is
read as. -/
def doubleOf (negative : Bool) (whole fraction : List Char) (exponent : Int) : JsonNumber :=
  let (upper, wholeRest) := appendDigits 0 whole
  let (digits, fractionRest) := appendDigits upper fraction
  let shift : Int := wholeRest.length - (fraction.length - fractionRest.length : Nat)
  match scaled? digits (shift + exponent) with
  | some magnitude => .double (Decimal.signed negative magnitude)
  | none => .outOfRange

/-- The number that a numeral is. Without a point and an exponent it is a whole number if it fits
in 64 bits; `-0` is the double. -/
def numberOf (negative : Bool) (whole fraction : List Char) (exponent : Option Int) : JsonNumber :=
  let value := Decimal.valueOf whole
  let isWhole := fraction.isEmpty && exponent.isNone
  if isWhole && !negative && decide (value < twoTo 64) then .natural value
  else if isWhole && negative && value != 0 && decide (value ≤ twoTo 63) then .negative value
  else doubleOf negative whole fraction (exponent.getD 0)

end Json

end Holdout
