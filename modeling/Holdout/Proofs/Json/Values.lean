/-
This file proves that the parts of a structure survive its document. A value is found in what was
written for it, in an array of such values, and where absence was written as null. Only a double
that is no finite number is not found: null was written for it, which is read as absence where that
is possible and refused where a double has to stand.
-/

import Holdout.Proofs.Json.Documents

namespace Holdout

namespace Json

/-! ### What can be written -/

theorem writable_ofFloat {value : Float}
    (reads : value.isFinite = true → ReadsBack (.double value)) : (ofFloat value).Writable := by
  unfold ofFloat
  split
  · rename_i finite
    exact .number (reads finite)
  · exact .null

theorem writable_ofOption {Value : Type} {encode : Value → Json} {value : Option Value}
    (writable : ∀ present, value = some present → (encode present).Writable) :
    (ofOption encode value).Writable := by
  cases value with
  | none => exact .null
  | some present => exact writable present rfl

theorem writable_map {Value : Type} {encode : Value → Json} {values : List Value}
    (writable : ∀ value ∈ values, (encode value).Writable) :
    (Json.array (values.map encode)).Writable := by
  refine .array fun element member => ?_
  obtain ⟨value, inside, rfl⟩ := List.mem_map.mp member
  exact writable value inside

/-! ### What is found -/

theorem asFloat_ofFloat {value : Float} (finite : value.isFinite = true) :
    asFloat (ofFloat value) = .ok value := by
  rw [ofFloat, if_pos finite]
  rfl

/-- Null stands for a double that is no finite number, and is no double. -/
theorem asFloat_ofFloat_of_not_finite {value : Float} (unbounded : ¬ value.isFinite = true) :
    asFloat (ofFloat value) = .error .shape := by
  rw [ofFloat, if_neg unbounded]
  rfl

/-- A field that is still empty takes what is found. -/
theorem setOnce_none {Value : Type} (decode : Json → Decoding Value) (document : Json) :
    setOnce none decode document = (decode document).map some := rfl

theorem eq_shape_of_asFloat_ofFloat {value : Float} {error : DecodingError}
    (refuses : asFloat (ofFloat value) = .error error) : error = .shape := by
  by_cases finite : value.isFinite = true
  · rw [asFloat_ofFloat finite] at refuses
    cases refuses
  · rw [asFloat_ofFloat_of_not_finite finite] at refuses
    cases refuses
    rfl

theorem asOption_ofOption_string (value : Option String) :
    asOption asString (ofOption .string value) = .ok value := by
  cases value <;> rfl

/-- A double that can be absent is absent if it is no finite number. -/
theorem asOption_ofOption_float (value : Option Float) :
    asOption asFloat (ofOption ofFloat value) = .ok (value.filter Float.isFinite) := by
  cases value with
  | none => rfl
  | some value =>
    rw [ofOption, ofFloat, Option.filter]
    split <;> rfl

theorem asList_map {Value : Type} {decode : Json → Decoding Value} {encode : Value → Json}
    {values : List Value} (finds : ∀ value ∈ values, decode (encode value) = .ok value) :
    asList decode (.array (values.map encode)) = .ok values := by
  show (values.map encode).mapM decode = .ok values
  induction values with
  | nil => rfl
  | cons value others inductionHypothesis =>
    have later := inductionHypothesis fun other member =>
      finds other (List.mem_cons_of_mem _ member)
    rw [List.map_cons, List.mapM_cons, finds value List.mem_cons_self, later]
    rfl

theorem asOption_asList_map {Value : Type} {decode : Json → Decoding Value}
    {encode : Value → Json} {values : List Value}
    (finds : ∀ value ∈ values, decode (encode value) = .ok value) :
    asOption (asList decode) (.array (values.map encode)) = .ok (some values) :=
  congrArg (Except.map some) (asList_map finds)

/-- One element that is refused refuses the array. -/
theorem asList_map_error {Value : Type} {decode : Json → Decoding Value} {encode : Value → Json}
    {values : List Value} {error : DecodingError} {refused : Value} (member : refused ∈ values)
    (refuses : decode (encode refused) = .error error)
    (only : ∀ value ∈ values, ∀ other, decode (encode value) = .error other → other = error) :
    asList decode (.array (values.map encode)) = .error error := by
  show (values.map encode).mapM decode = .error error
  induction values with
  | nil => cases member
  | cons value others inductionHypothesis =>
    rw [List.map_cons, List.mapM_cons]
    cases here : decode (encode value) with
    | error other =>
      rw [only value List.mem_cons_self other here]
      rfl
    | ok found =>
      have later : refused ∈ others := by
        rcases List.mem_cons.mp member with rfl | later
        · rw [refuses] at here
          cases here
        · exact later
      rw [inductionHypothesis later fun value inside => only value (List.mem_cons_of_mem _ inside)]
      rfl

/-! ### Members -/

section

variable {State : Type} {step : State → String → Json → Decoding State} {state next : State}
  {name : String} {document : Json} (rest : List (Option String × Json))

theorem foldFields_member (takes : step state name document = .ok next) :
    foldFields step state (member name document :: rest) = foldFields step next rest := by
  rw [member, foldFields, takes]
  rfl

theorem foldFields_member_error {error : DecodingError}
    (refuses : step state name document = .error error) :
    foldFields step state (member name document :: rest) = .error error := by
  rw [member, foldFields, refuses]
  rfl

end

end Json

end Holdout
