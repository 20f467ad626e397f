/-
This file lays a double out as text. The digits are the fewest that read back; where the point
goes, whether an exponent is written, and how the values that are no numbers are spelled is a
style, and every format of the library states its own. The sign of zero is kept.
-/

import Holdout.Decimal.Shortest

namespace Holdout

namespace Decimal

/-- How doubles are written in one format. -/
structure Style where
  /-- Which of two equally near shortest decimals is written. -/
  tie : Tie
  /-- Whether a number whose first digit stands for this power of ten is written without an
  exponent. -/
  isPositional : Int → Bool
  /-- What follows an integral number that is written without an exponent. -/
  afterWhole : List Char
  /-- What stands before a positive exponent. -/
  beforePositive : List Char
  /-- The text of a value that is no number. -/
  notANumber : List Char
  /-- The text of positive infinity; the negative one has a minus sign before it. -/
  infinity : List Char

/-- The power of ten that the first digit of a decimal stands for. -/
def leading (decimal : Decimal) : Int :=
  decimal.exponent + (digitsOf decimal.digits).length - 1

/-- A decimal without an exponent. -/
def positional (afterWhole : List Char) (decimal : Decimal) : List Char :=
  let digits := digitsOf decimal.digits
  match decimal.exponent with
  | .ofNat zeros => digits ++ List.replicate zeros '0' ++ afterWhole
  | .negSucc places =>
    let padded := List.replicate (places + 2 - digits.length) '0' ++ digits
    padded.take (padded.length - (places + 1)) ++ '.' :: padded.drop (padded.length - (places + 1))

/-- A decimal with one digit before the point and an exponent. -/
def scientific (beforePositive : List Char) (decimal : Decimal) : List Char :=
  let digits := digitsOf decimal.digits
  let fraction := match digits.drop 1 with
    | [] => []
    | rest => '.' :: rest
  let exponent := match decimal.leading with
    | .ofNat power => beforePositive ++ digitsOf power
    | .negSucc power => '-' :: digitsOf (power + 1)
  digits.take 1 ++ fraction ++ 'e' :: exponent

/-- A decimal in a style. -/
def lay (style : Style) (decimal : Decimal) : List Char :=
  if style.isPositional decimal.leading then positional style.afterWhole decimal
  else scientific style.beforePositive decimal

/-- A double in a style. -/
def render (style : Style) (number : Float) : List Char :=
  if number.isNaN then style.notANumber
  else
    let magnitude := if number.isInf then style.infinity else lay style (shortest style.tie number)
    if isNegative number then '-' :: magnitude else magnitude

/-- The style of messages: never an exponent, and no point after an integral number. -/
def messageStyle : Style where
  tie := .upward
  isPositional := fun _ => true
  afterWhole := []
  beforePositive := []
  notANumber := ['N', 'a', 'N']
  infinity := ['i', 'n', 'f']

/-- A double as messages show it. -/
def inMessage (number : Float) : String := String.ofList (render messageStyle number)

end Decimal

end Holdout
