/-
This file defines JSON documents as they are read. A reader stops at the first thing that is
wrong, and what came before it can matter more, so a document is kept up to the place where its
text breaks and holds a mark there. Two more marks stand for values that may be skipped but not
used: a string that is half of a surrogate pair, and a number past the largest double.
-/

import Holdout.Decimal.Layout

namespace Holdout

/-- A number of a JSON document. Whole numbers of 64 bits are kept apart from doubles. -/
inductive JsonNumber where
  | natural (value : Nat)
  /-- A whole number below zero, by its magnitude. -/
  | negative (magnitude : Nat)
  | double (value : Float)
  /-- A number past the largest finite double. -/
  | outOfRange

/-- A JSON document. -/
inductive Json where
  | null
  | bool (value : Bool)
  | number (value : JsonNumber)
  | string (value : String)
  /-- A string with a surrogate that has no partner. -/
  | unpaired
  | array (elements : List Json)
  /-- Members in order, repeated names included; a name with an unpaired surrogate is missing. -/
  | object (members : List (Option String × Json))
  /-- The place where the text breaks. Nothing follows it. -/
  | broken

namespace Json

/-- The style of numbers in JSON text: a point always, and an exponent with its sign outside of
`10 ^ -5` to `10 ^ 16`. -/
def numberStyle : Decimal.Style where
  tie := .toEven
  isPositional := fun leading => decide (-5 ≤ leading) && decide (leading < 16)
  afterWhole := ['.', '0']
  beforePositive := ['+']
  notANumber := ['n', 'u', 'l', 'l']
  infinity := ['n', 'u', 'l', 'l']

/-- A member with a plain name. -/
def member (name : String) (value : Json) : Option String × Json := (some name, value)

/-- A count or another natural number. -/
def ofNat (value : Nat) : Json := .number (.natural value)

/-- A double; one that is infinite or no number has no JSON text and becomes null. -/
def ofFloat (value : Float) : Json :=
  if value.isFinite then .number (.double value) else .null

/-- A value that can be absent; absence is null. -/
def ofOption {Value : Type} (encode : Value → Json) : Option Value → Json
  | some value => encode value
  | none => .null

end Json

end Holdout
