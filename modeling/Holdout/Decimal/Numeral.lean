/-
This file reads a double from a whole text: an optional sign, then digits with an optional point
and an optional exponent, or the name of a value that is no finite number. The point may stand
first or last as long as there is a digit. Nothing else is accepted, no blanks and no digit
separators.
-/

import Holdout.Text.Scan

namespace Holdout

namespace Decimal

/-- The run of digits at the front of a text, and what follows it. -/
def spanDigits (text : List Char) : List Char × List Char :=
  (text.takeWhile isDigit, text.dropWhile isDigit)

/-- A sign at the front of a text, true for minus, and what follows it. -/
def spanSign : List Char → Bool × List Char
  | '-' :: rest => (true, rest)
  | '+' :: rest => (false, rest)
  | text => (false, text)

/-- An exponent at the front of a text, zero if there is none, and what follows it. An exponent
mark without digits is refused. -/
def spanExponent? : List Char → Option (Int × List Char)
  | [] => some (0, [])
  | mark :: text =>
    if mark = 'e' ∨ mark = 'E' then
      let (negative, body) := spanSign text
      match spanDigits body with
      | ([], _) => none
      | (digits, rest) => some (if negative then -(valueOf digits : Int) else valueOf digits, rest)
    else some (0, mark :: text)

/-- A finite magnitude that fills the text. -/
def finite? (text : List Char) : Option Float :=
  let (whole, afterWhole) := spanDigits text
  let (fraction, afterFraction) := match afterWhole with
    | '.' :: rest => spanDigits rest
    | rest => ([], rest)
  if whole.isEmpty && fraction.isEmpty then none
  else match spanExponent? afterFraction with
    | some (exponent, []) => some (ofParts whole fraction exponent).toFloat
    | _ => none

/-- A magnitude that fills the text. -/
def magnitude? (text : List Char) : Option Float :=
  if Text.isWord "inf" text || Text.isWord "infinity" text then some (1.0 / 0.0)
  else if Text.isWord "nan" text then some (0.0 / 0.0)
  else finite? text

/-- The double that a text is, if it is one. -/
def float? (text : List Char) : Option Float :=
  let (negative, body) := spanSign text
  (magnitude? body).map (signed negative)

/-- The natural number below `bound` that a text is: digits with an optional plus sign. -/
def natural? (bound : Nat) (text : List Char) : Option Nat :=
  let body := match text with
    | '+' :: rest => rest
    | rest => rest
  if body.isEmpty || !body.all isDigit then none
  else if valueOf body < bound then some (valueOf body) else none

end Decimal

end Holdout
