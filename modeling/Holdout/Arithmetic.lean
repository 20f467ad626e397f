/-
This file defines the arithmetic in which metrics are computed, as a record of operations. The
program runs on doubles. The record makes the same formulas available over exact numbers, where
their laws hold without rounding, and with any discount in the place of the logarithm.
-/

namespace Holdout

/-- The operations that the metrics are made of. -/
structure Arithmetic (Number : Type) where
  /-- The sum of no terms. -/
  emptySum : Number
  add : Number → Number → Number
  sub : Number → Number → Number
  mul : Number → Number → Number
  div : Number → Number → Number
  /-- Whether the first number is less than the second. -/
  less : Number → Number → Bool
  /-- Whether the first number is at most the second. -/
  atMost : Number → Number → Bool
  /-- A count. -/
  ofNat : Nat → Number
  /-- A score, a rating or a parameter. -/
  ofFloat : Float → Number
  /-- What the gain at a rank, counted from one, is divided by. -/
  discount : Nat → Number

namespace Arithmetic

/-- The arithmetic of doubles. Sums start from the negative zero, so that a sum of no terms is
`-0.0`, and the discount of a rank is the binary logarithm of the next one. -/
def double : Arithmetic Float where
  emptySum := -0.0
  add := fun first second => first + second
  sub := fun first second => first - second
  mul := fun first second => first * second
  div := fun first second => first / second
  less := fun first second => decide (first < second)
  atMost := fun first second => decide (first ≤ second)
  ofNat := Float.ofNat
  ofFloat := fun number => number
  discount := fun rank => Float.log2 (Float.ofNat (rank + 1))

variable {Number : Type}

/-- The sum of the terms, from left to right. -/
def sum (arithmetic : Arithmetic Number) (terms : List Number) : Number :=
  terms.foldl arithmetic.add arithmetic.emptySum

/-- A number that counts as zero below zero, or if it is no number. -/
def positivePart (arithmetic : Arithmetic Number) (number : Number) : Number :=
  if arithmetic.less (arithmetic.ofNat 0) number then number else arithmetic.ofNat 0

/-- A number kept between zero and one. -/
def clamp (arithmetic : Arithmetic Number) (number : Number) : Number :=
  if arithmetic.less number (arithmetic.ofNat 0) then arithmetic.ofNat 0
  else if arithmetic.less (arithmetic.ofNat 1) number then arithmetic.ofNat 1
  else number

/-- The quotient of two counts. -/
def ratio (arithmetic : Arithmetic Number) (part whole : Nat) : Number :=
  arithmetic.div (arithmetic.ofNat part) (arithmetic.ofNat whole)

/-- `result * base ^ exponent` by repeated squaring, the low bits of the exponent first. -/
def powerFrom (arithmetic : Arithmetic Number) (result base : Number) (exponent : Nat) : Number :=
  let product := if exponent % 2 = 1 then arithmetic.mul result base else result
  if exponent / 2 = 0 then product
  else powerFrom arithmetic product (arithmetic.mul base base) (exponent / 2)
termination_by exponent

/-- A power with a natural exponent; the power zero is one. -/
def power (arithmetic : Arithmetic Number) (base : Number) (exponent : Nat) : Number :=
  powerFrom arithmetic (arithmetic.ofNat 1) base exponent

/-- Each number divided by the discount of its rank, the first rank given. -/
def discounted (arithmetic : Arithmetic Number) (rank : Nat) : List Number → List Number
  | [] => []
  | number :: rest =>
    arithmetic.div number (arithmetic.discount rank) :: discounted arithmetic (rank + 1) rest

end Arithmetic

end Holdout
