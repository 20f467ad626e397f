/-
This file writes records as comma-separated lines that end with a line feed. A field is quoted when
it holds a comma, a quote or a line end; its quotes are then doubled.
-/

import Holdout.Decimal.Layout

namespace Holdout

namespace Csv

/-- Whether a field with this character has to be quoted. -/
def isSpecial (character : Char) : Bool :=
  character == ',' || character == '"' || character == '\n' || character == '\r'

/-- A character inside quotes. -/
def doubled (character : Char) : List Char :=
  if character = '"' then ['"', '"'] else [character]

/-- The text of a field. -/
def fieldText (field : List Char) : List Char :=
  if field.any isSpecial then '"' :: field.flatMap doubled ++ ['"'] else field

/-- The texts of fields, with a comma before each. -/
def fieldsTail (fields : List (List Char)) : List Char :=
  fields.flatMap fun field => ',' :: fieldText field

/-- The line of a record. -/
def recordText : List (List Char) → List Char
  | [] => ['\n']
  | first :: rest => fieldText first ++ fieldsTail rest ++ ['\n']

/-- The style of numbers: as in JSON, but without a sign before a positive exponent, and with names
for the values that are no finite numbers. -/
def numberStyle : Decimal.Style where
  tie := .toEven
  isPositional := fun leading => decide (-5 ≤ leading) && decide (leading < 16)
  afterWhole := ['.', '0']
  beforePositive := []
  notANumber := ['N', 'a', 'N']
  infinity := ['i', 'n', 'f']

end Csv

end Holdout
