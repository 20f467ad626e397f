/-
This file writes JSON documents as compact text. Strings are escaped where JSON demands it, the
control characters with a short name by that name, and everything else is written as it is.
-/

import Holdout.Json.Value
import Holdout.Text.Hex

namespace Holdout

namespace Json

/-- A character inside a string. -/
def escaped (character : Char) : List Char :=
  if character = '"' then ['\\', '"']
  else if character = '\\' then ['\\', '\\']
  else if character.toNat = 8 then ['\\', 'b']
  else if character.toNat = 12 then ['\\', 'f']
  else if character = '\n' then ['\\', 'n']
  else if character = '\r' then ['\\', 'r']
  else if character = '\t' then ['\\', 't']
  else if character.toNat < 32 then
    ['\\', 'u', '0', '0', Text.hexDigit (character.toNat / 16),
      Text.hexDigit (character.toNat % 16)]
  else [character]

/-- A string with its quotes. -/
def quoted (text : String) : List Char := '"' :: text.toList.flatMap escaped ++ ['"']

/-- A number. -/
def numberText : JsonNumber → List Char
  | .natural value => Decimal.digitsOf value
  | .negative magnitude => '-' :: Decimal.digitsOf magnitude
  | .double value => Decimal.render numberStyle value
  | .outOfRange => []

mutual

/-- The text of a document. The marks of what cannot be used have no text. -/
def text : Json → List Char
  | .null => ['n', 'u', 'l', 'l']
  | .bool true => ['t', 'r', 'u', 'e']
  | .bool false => ['f', 'a', 'l', 's', 'e']
  | .number value => numberText value
  | .string value => quoted value
  | .array elements => '[' :: elementsText elements ++ [']']
  | .object members => '{' :: membersText members ++ ['}']
  | .unpaired | .broken => []
termination_by structural document => document

/-- The text of elements, with commas between them. -/
def elementsText : List Json → List Char
  | [] => []
  | element :: rest => text element ++ elementsTail rest
termination_by structural elements => elements

/-- The text of elements, with a comma before each. -/
def elementsTail : List Json → List Char
  | [] => []
  | element :: rest => ',' :: text element ++ elementsTail rest
termination_by structural elements => elements

/-- The text of members, with commas between them. -/
def membersText : List (Option String × Json) → List Char
  | [] => []
  | entry :: rest => memberText entry ++ membersTail rest
termination_by structural members => members

/-- The text of members, with a comma before each. -/
def membersTail : List (Option String × Json) → List Char
  | [] => []
  | entry :: rest => ',' :: memberText entry ++ membersTail rest
termination_by structural members => members

/-- The text of one member. -/
def memberText : Option String × Json → List Char
  | (name, value) => quoted (name.getD "") ++ ':' :: text value
termination_by structural entry => entry

end

/-- The text of a document as a string. -/
def render (document : Json) : String := String.ofList document.text

end Json

end Holdout
