/-
This file defines the names of runs, numbers of 128 bits. A name is written as 32 hexadecimal
digits in five groups; it is also read without the groups, in braces, and behind its scheme. The
case of letters does not matter.
-/

import Holdout.Text.Hex
import Holdout.Text.Scan

namespace Holdout

/-- The name of a run. -/
structure RunId where
  value : Nat
deriving DecidableEq, Repr, Inhabited

namespace RunId

/-- The name that hexadecimal digits are. -/
def ofDigits? (digits : List Char) : Option RunId := (Text.hexNumber? digits).map RunId.mk

/-- The name in a text of five groups with hyphens between them. -/
def ofGroups? (text : List Char) : Option RunId :=
  let isHyphen := fun (position : Nat) => text[position]? == some '-'
  if text.length = 36 ∧ isHyphen 8 ∧ isHyphen 13 ∧ isHyphen 18 ∧ isHyphen 23 then
    ofDigits? (text.take 8 ++ (text.drop 9).take 4 ++ (text.drop 14).take 4 ++
      (text.drop 19).take 4 ++ text.drop 24)
  else none

/-- The name that a whole text is. -/
def ofText? (text : List Char) : Option RunId :=
  match Text.afterWord? "urn:uuid:" text, text with
  | some groups, _ => ofGroups? groups
  | none, '{' :: rest => if rest.getLast? = some '}' then ofGroups? rest.dropLast else none
  | none, _ => if text.length = 32 then ofDigits? text else ofGroups? text

/-- The last `count` hexadecimal digits of a number. -/
def digitsOf : Nat → Nat → List Char
  | 0, _ => []
  | count + 1, value => digitsOf count (value / 16) ++ [Text.hexDigit (value % 16)]

/-- The text of a name. -/
def text (id : RunId) : List Char :=
  let digits := digitsOf 32 id.value
  digits.take 8 ++ '-' :: (digits.drop 8).take 4 ++ '-' :: (digits.drop 12).take 4 ++
    '-' :: (digits.drop 16).take 4 ++ '-' :: digits.drop 20

end RunId

end Holdout
