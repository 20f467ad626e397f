/-
This file turns JSON documents into values. Everything happens in the order of the text: the
first thing that is wrong decides the error, and the mark of a broken text is an error where it
stands. A structure is written as an object or as the array of its fields; an object may have
members that nobody knows, but no known one twice.
-/

import Holdout.ItemList.Basic
import Holdout.Json.Reader

namespace Holdout

/-- Why a document is no value of the wanted type. -/
inductive DecodingError where
  /-- The text is no JSON, or has another shape. -/
  | shape
  /-- The shape is right, but an item list in it is impossible. -/
  | list (error : ItemListError)
deriving DecidableEq, Repr

/-- A value that was looked for in a document. -/
abbrev Decoding (Value : Type) := Except DecodingError Value

namespace Json

/-! ### Plain values -/

/-- A string. -/
def asString : Json → Decoding String
  | .string value => .ok value
  | _ => .error .shape

/-- A truth value. -/
def asBool : Json → Decoding Bool
  | .bool value => .ok value
  | _ => .error .shape

/-- A double; whole numbers are doubles too. -/
def asFloat : Json → Decoding Float
  | .number (.natural value) => .ok (Float.ofNat value)
  | .number (.negative magnitude) => .ok (-Float.ofNat magnitude)
  | .number (.double value) => .ok value
  | _ => .error .shape

/-- A natural number below a bound. -/
def asNat (bound : Nat) : Json → Decoding Nat
  | .number (.natural value) => if value < bound then .ok value else .error .shape
  | _ => .error .shape

/-- A count. -/
def asCount (document : Json) : Decoding Nat := document.asNat (twoTo 64)

/-- An array of values. -/
def asList {Value : Type} (decode : Json → Decoding Value) : Json → Decoding (List Value)
  | .array elements => elements.mapM decode
  | _ => .error .shape

/-- A value that can be absent. -/
def asOption {Value : Type} (decode : Json → Decoding Value) : Json → Decoding (Option Value)
  | .null => .ok none
  | document => (decode document).map some

/-! ### What is skipped -/

mutual

/-- Whether a document can be skipped: its text does not break in it. -/
def isWhole : Json → Bool
  | .array elements => allWhole elements
  | .object members => membersWhole members
  | .broken => false
  | _ => true
termination_by structural document => document

/-- Whether all elements can be skipped. -/
def allWhole : List Json → Bool
  | [] => true
  | element :: rest => isWhole element && allWhole rest
termination_by structural elements => elements

/-- Whether all members can be skipped. -/
def membersWhole : List (Option String × Json) → Bool
  | [] => true
  | entry :: rest => memberWhole entry && membersWhole rest
termination_by structural members => members

/-- Whether the value of a member can be skipped. -/
def memberWhole : Option String × Json → Bool
  | (_, value) => isWhole value
termination_by structural entry => entry

end

mutual

/-- Whether a document can be kept for a second look: nothing in it breaks, no surrogate is
unpaired, no number is out of range, and it is nested less than `depth` levels deep. -/
def isUsable (depth : Nat) : Json → Bool
  | .array elements => decide (1 < depth) && allUsable (depth - 1) elements
  | .object members => decide (1 < depth) && membersUsable (depth - 1) members
  | .broken | .unpaired | .number .outOfRange => false
  | _ => true
termination_by structural document => document

/-- Whether all elements can be kept. -/
def allUsable (depth : Nat) : List Json → Bool
  | [] => true
  | element :: rest => isUsable depth element && allUsable depth rest
termination_by structural elements => elements

/-- Whether all members can be kept. -/
def membersUsable (depth : Nat) : List (Option String × Json) → Bool
  | [] => true
  | entry :: rest => memberUsable depth entry && membersUsable depth rest
termination_by structural members => members

/-- Whether a member can be kept. -/
def memberUsable (depth : Nat) : Option String × Json → Bool
  | (name, value) => name.isSome && isUsable depth value
termination_by structural entry => entry

end

/-- How deep a text may nest what is kept for a second look. -/
def depthLimit : Nat := 128

/-! ### Structures -/

/-- The members of a structure. An array stands for the fields in their order: it may leave out
fields at its end, but none of the `least` first ones, and may hold nothing more. -/
def fieldsOf (names : List String) (least : Nat) : Json → Decoding (List (Option String × Json))
  | .object members => .ok members
  | .array elements =>
    if elements.length < least then .error .shape
    else if names.length < elements.length then
      .ok ((names.map some).zip elements ++ [(none, .broken)])
    else .ok ((names.map some).zip elements)
  | _ => .error .shape

/-- Goes through the members in order and hands every one to `step`. -/
def foldFields {State : Type} (step : State → String → Json → Decoding State) :
    State → List (Option String × Json) → Decoding State
  | state, [] => .ok state
  | _, (none, _) :: _ => .error .shape
  | state, (some name, value) :: rest => do
    let next ← step state name value
    foldFields step next rest

/-- Puts a value into a field that has to be empty. -/
def setOnce {Value : Type} (field : Option Value) (decode : Json → Decoding Value)
    (document : Json) : Decoding (Option Value) :=
  if field.isSome then .error .shape else (decode document).map some

/-- The value of a field that has to be there. -/
def required {Value : Type} : Option Value → Decoding Value
  | some value => .ok value
  | none => .error .shape

/-- Passes over a member that nobody knows. -/
def skip {State : Type} (state : State) (document : Json) : Decoding State :=
  if document.isWhole then .ok state else .error .shape

/-! ### Whole texts -/

/-- The value that a text holds. What is wrong with the value comes before what follows it. -/
def decodeText {Value : Type} (decode : Json → Decoding Value) (text : String) :
    Decoding Value := do
  let (document, isAll) := ofText text.toList
  let value ← decode document
  if isAll then return value else throw .shape

end Json

end Holdout
