/-
This file reads expected pieces at the front of a text.
-/

import Holdout.Decimal.Basic

namespace Holdout

namespace Text

/-- The text after an expected character. -/
def expect? (character : Char) : List Char → Option (List Char)
  | first :: rest => if first = character then some rest else none
  | [] => none

/-- Whether a text is a given lower-case word, whatever the case of its ASCII letters. -/
def isWord (word : String) (text : List Char) : Bool := text.map Char.toLower == word.toList

/-- The text after an expected lower-case word, whatever the case of its ASCII letters. -/
def afterWord? (word : String) (text : List Char) : Option (List Char) :=
  if isWord word (text.take word.length) then some (text.drop word.length) else none

/-- The number in one to so many digits at the front of a text, and the text after them. -/
def upTo? (most : Nat) (text : List Char) : Option (Nat × List Char) :=
  match (text.take most).takeWhile Decimal.isDigit with
  | [] => none
  | digits => some (Decimal.valueOf digits, text.drop digits.length)

/-- The number in exactly so many digits at the front of a text, and the text after them. -/
def fixed? (count : Nat) (text : List Char) : Option (Nat × List Char) :=
  let digits := text.take count
  if digits.length = count ∧ digits.all Decimal.isDigit then
    some (Decimal.valueOf digits, text.drop count)
  else none

end Text

end Holdout
