/-
This file proves that documents survive their text. A document that holds no mark of something
broken, and no number that does not read back, is read from its text as it is, and nothing of the
text is left.
-/

import Holdout.Proofs.Json.Numerals
import Holdout.Proofs.Json.Strings
import Holdout.Json.Decoding

namespace Holdout

namespace Json

/-! ### What can be written -/

/-- Documents that have a text of their own. -/
inductive Writable : Json → Prop where
  | null : Writable .null
  | bool (value : Bool) : Writable (.bool value)
  | number {number : JsonNumber} (reads : ReadsBack number) : Writable (.number number)
  | string (value : String) : Writable (.string value)
  | array {elements : List Json} (each : ∀ element ∈ elements, Writable element) :
      Writable (.array elements)
  | object {members : List (Option String × Json)}
      (named : ∀ member ∈ members, member.1.isSome = true)
      (each : ∀ member ∈ members, Writable member.2) : Writable (.object members)

/-- What a document is written with first: no gap, which a reader would pass over, and no bracket
that closes an array. -/
theorem Writable.head {document : Json} (writable : document.Writable) :
    ∃ first others, document.text = first :: others ∧ isGap first = false ∧ first ≠ ']' := by
  cases writable with
  | bool value => cases value <;> exact ⟨_, _, rfl, rfl, by decide⟩
  | number reads =>
    obtain ⟨first, others, same, minus | digit⟩ := head_of_numberAt? reads
    · exact ⟨first, others, same, minus ▸ rfl, minus ▸ by decide⟩
    · obtain ⟨low, high⟩ := Decimal.isDigit_iff.mp digit
      have apart (other : Char) (different : other.toNat < 48 ∨ 57 < other.toNat) :
          first ≠ other := by
        rintro rfl
        omega
      refine ⟨first, others, same, ?_, apart ']' (by decide)⟩
      simp [isGap, apart ' ' (by decide), apart '\n' (by decide), apart '\t' (by decide),
        apart '\r' (by decide)]
  | _ => exact ⟨_, _, rfl, rfl, by decide⟩

theorem skipGap_cons (first : Char) (dense : isGap first = false) (others : List Char) :
    skipGap (first :: others) = first :: others :=
  List.dropWhile_cons_of_neg (by simp [dense])

/-! ### What is read -/

/-- Whether the text of a document is read as the document, wherever it stands. Every step of a
reader takes at least one character. -/
def Reads (document : Json) : Prop :=
  ∀ fuel rest, document.text.length ≤ fuel → Stops rest →
    valueAt fuel (document.text ++ rest) = (document, some rest)

theorem reads_null : Reads .null := by
  intro fuel rest enough stops
  cases fuel with
  | zero => cases enough
  | succ fuel => rfl

theorem reads_bool (value : Bool) : Reads (.bool value) := by
  intro fuel rest enough stops
  cases fuel with
  | zero => cases value <;> cases enough
  | succ fuel => cases value <;> rfl

theorem reads_number {number : JsonNumber} (reads : ReadsBack number) : Reads (.number number) := by
  intro fuel rest enough stops
  obtain ⟨first, others, same, begins⟩ := head_of_numberAt? reads
  obtain ⟨_, _, here, dense, -⟩ := (Writable.number reads).head
  obtain ⟨rfl, rfl⟩ := List.cons.inj (same.symm.trans here)
  have whole := numberAt?_append stops reads
  rw [same, List.cons_append] at whole
  cases fuel with
  | zero => rw [text, same] at enough; cases enough
  | succ fuel =>
    rw [text, same, List.cons_append, valueAt, skipGap_cons _ dense]
    split
    case h_7 => rw [whole]; rfl
    all_goals
      rename_i other
      obtain ⟨rfl, -⟩ := List.cons.inj other
      rcases begins with minus | digit
      · cases minus
      · cases digit

theorem reads_string (value : String) : Reads (.string value) := by
  intro fuel rest enough stops
  cases fuel with
  | zero => cases enough
  | succ fuel =>
    have inner := stringAt?_quoted value rest
    rw [text, quoted, List.cons_append, List.cons_append, List.append_assoc, valueAt,
      skipGap_cons _ rfl]
    simp only [List.cons_append, List.nil_append, inner, ofCharacters, String.ofList_toList]

/-! ### Elements -/

theorem elementsAt_elementsText {first : Json} {others : List Json}
    (each : ∀ element ∈ first :: others, element.Reads) {fuel : Nat} (rest : List Char)
    (enough : (elementsText (first :: others)).length < fuel) :
    elementsAt fuel (elementsText (first :: others) ++ ']' :: rest) =
      (first :: others, some rest) := by
  induction others generalizing first fuel with
  | nil =>
    cases fuel with
    | zero => cases enough
    | succ fuel =>
      rw [elementsText, elementsTail, List.append_nil] at enough ⊢
      have here := each first List.mem_cons_self fuel (']' :: rest) (by omega)
        (Stops.cons rest (by decide))
      rw [elementsAt, here]
      rfl
  | cons second others inductionHypothesis =>
    cases fuel with
    | zero => cases enough
    | succ fuel =>
      have more : elementsText (first :: second :: others) =
          first.text ++ ',' :: elementsText (second :: others) := rfl
      rw [more, List.length_append, List.length_cons] at enough
      have here := each first List.mem_cons_self fuel
        (',' :: (elementsText (second :: others) ++ ']' :: rest)) (by omega)
        (Stops.cons _ (by decide))
      have fits : (elementsText (second :: others)).length < fuel := by omega
      have there := inductionHypothesis
        (fun element member => each element (List.mem_cons_of_mem _ member)) fits
      rw [more, List.append_assoc, List.cons_append, elementsAt, here]
      simp only [skipGap_cons ',' rfl, there]

theorem reads_array {elements : List Json} (writable : ∀ element ∈ elements, element.Writable)
    (each : ∀ element ∈ elements, element.Reads) : Reads (.array elements) := by
  intro fuel rest enough stops
  cases fuel with
  | zero => cases enough
  | succ fuel =>
    cases elements with
    | nil => rfl
    | cons element others =>
      obtain ⟨first, more, same, dense, opened⟩ := (writable element List.mem_cons_self).head
      have fits : (elementsText (element :: others)).length < fuel := by
        simp only [text, List.length_append, List.length_cons, List.length_nil] at enough
        omega
      have inner := elementsAt_elementsText each rest fits
      have begins : elementsText (element :: others) = first :: (more ++ elementsTail others) := by
        rw [elementsText, same, List.cons_append]
      rw [text, List.cons_append, List.cons_append, List.append_assoc, valueAt, skipGap_cons _ rfl]
      rw [begins] at inner ⊢
      simp only [List.cons_append, List.nil_append, skipGap_cons _ dense] at inner ⊢
      split
      · rename_i closed
        exact absurd (List.cons.inj closed).1 opened
      · rw [inner]

/-! ### Members -/

/-- The members from one that was read on: after a comma there are more, after a bracket none. -/
def membersFrom (fuel : Nat) (member : Option String × Json) (text : List Char) :
    List (Option String × Json) × Option (List Char) :=
  match skipGap text with
  | ',' :: more =>
    let (members, after) := membersAt fuel more
    (member :: members, after)
  | '}' :: after => ([member], some after)
  | _ => ([member, (none, .broken)], none)

/-- A name is read up to the value that stands behind it. -/
theorem membersAt_memberText (name : String) {value : Json} {fuel : Nat} {more : List Char}
    (here : valueAt fuel (value.text ++ more) = (value, some more)) :
    membersAt (fuel + 1) (memberText (some name, value) ++ more) =
      membersFrom fuel (some name, value) more := by
  have characters := stringAt?_quoted name (':' :: (value.text ++ more))
  rw [memberText, Option.getD_some, quoted, List.cons_append, List.cons_append, List.cons_append,
    membersAt, skipGap_cons _ rfl]
  simp only [List.append_assoc, List.cons_append, List.nil_append, characters,
    skipGap_cons ':' rfl, here, Option.map_some, String.ofList_toList]
  rfl

theorem membersAt_membersText {first : Option String × Json} {others : List (Option String × Json)}
    (named : ∀ member ∈ first :: others, member.1.isSome = true)
    (each : ∀ member ∈ first :: others, member.2.Reads) {fuel : Nat} (rest : List Char)
    (enough : (membersText (first :: others)).length < fuel) :
    membersAt fuel (membersText (first :: others) ++ '}' :: rest) =
      (first :: others, some rest) := by
  have shorter (name : String) (value : Json) :
      value.text.length < (memberText (some name, value)).length := by
    simp only [memberText, List.length_append, List.length_cons]
    omega
  induction others generalizing first fuel with
  | nil =>
    cases fuel with
    | zero => cases enough
    | succ fuel =>
      obtain ⟨name, value⟩ := first
      obtain ⟨name, rfl⟩ := Option.isSome_iff_exists.mp (named _ List.mem_cons_self)
      rw [membersText, membersTail, List.append_nil] at enough ⊢
      have fits := shorter name value
      have reads : value.Reads := each _ List.mem_cons_self
      rw [membersAt_memberText name
        (reads fuel ('}' :: rest) (by omega) (Stops.cons rest (by decide)))]
      rfl
  | cons second others inductionHypothesis =>
    cases fuel with
    | zero => cases enough
    | succ fuel =>
      obtain ⟨name, value⟩ := first
      obtain ⟨name, rfl⟩ := Option.isSome_iff_exists.mp (named _ List.mem_cons_self)
      have more : membersText ((some name, value) :: second :: others) =
          memberText (some name, value) ++ ',' :: membersText (second :: others) := rfl
      rw [more, List.length_append, List.length_cons] at enough
      have fits := shorter name value
      have fitOthers : (membersText (second :: others)).length < fuel := by omega
      have reads : value.Reads := each _ List.mem_cons_self
      have there := inductionHypothesis
        (fun member inside => named member (List.mem_cons_of_mem _ inside))
        (fun member inside => each member (List.mem_cons_of_mem _ inside)) fitOthers
      rw [more, List.append_assoc, List.cons_append, membersAt_memberText name
        (reads fuel _ (by omega) (Stops.cons _ (by decide)))]
      simp only [membersFrom, skipGap_cons ',' rfl, there]

theorem reads_object {members : List (Option String × Json)}
    (named : ∀ member ∈ members, member.1.isSome = true)
    (each : ∀ member ∈ members, member.2.Reads) : Reads (.object members) := by
  intro fuel rest enough stops
  cases fuel with
  | zero => cases enough
  | succ fuel =>
    cases members with
    | nil => rfl
    | cons member others =>
      have fits : (membersText (member :: others)).length < fuel := by
        simp only [text, List.length_append, List.length_cons, List.length_nil] at enough
        omega
      have inner := membersAt_membersText named each rest fits
      obtain ⟨more, begins⟩ : ∃ more, membersText (member :: others) = '"' :: more := by
        obtain ⟨name, value⟩ := member
        exact ⟨_, rfl⟩
      rw [text, List.cons_append, List.cons_append, List.append_assoc, valueAt, skipGap_cons _ rfl]
      rw [begins] at inner ⊢
      simp only [List.cons_append, List.nil_append, skipGap_cons '"' rfl] at inner ⊢
      show (object (membersAt fuel ('"' :: (more ++ '}' :: rest))).1, _) = _
      rw [inner]

/-! ### Whole texts -/

theorem Writable.reads {document : Json} (writable : document.Writable) : document.Reads := by
  induction writable with
  | null => exact reads_null
  | bool value => exact reads_bool value
  | number reads => exact reads_number reads
  | string value => exact reads_string value
  | array each inductionHypothesis => exact reads_array each inductionHypothesis
  | object named each inductionHypothesis => exact reads_object named inductionHypothesis

/-- The text of a document that can be written is read as the document, to its end. -/
theorem ofText_text {document : Json} (writable : document.Writable) :
    ofText document.text = (document, true) := by
  have reads := writable.reads (document.text.length + 1) [] (by omega) stops_nil
  rw [List.append_nil] at reads
  rw [ofText, reads]
  rfl

/-- So whatever is looked for in the document is found in its text. -/
theorem decodeText_render {Value : Type} (decode : Json → Decoding Value) {document : Json}
    (writable : document.Writable) : decodeText decode document.render = decode document := by
  rw [decodeText, render, String.toList_ofList, ofText_text writable]
  show (decode document >>= fun value => pure value) = decode document
  cases decode document <;> rfl

/-! ### Line ends -/

theorem lineFeed_notMem_membersTail {members : List (Option String × Json)}
    (each : ∀ member ∈ members, '\n' ∉ member.2.text) : '\n' ∉ membersTail members := by
  induction members with
  | nil => exact List.not_mem_nil
  | cons member others inductionHypothesis =>
    obtain ⟨name, value⟩ := member
    have here : '\n' ∉ value.text := each _ List.mem_cons_self
    have later := inductionHypothesis fun member inside =>
      each member (List.mem_cons_of_mem _ inside)
    simp [membersTail, memberText, lineFeed_notMem_quoted, here, later]

/-- The text of an object has no line end in it if the texts of its values have none. -/
theorem lineFeed_notMem_object {members : List (Option String × Json)}
    (each : ∀ member ∈ members, '\n' ∉ member.2.text) : '\n' ∉ (Json.object members).text := by
  have tail := lineFeed_notMem_membersTail each
  cases members with
  | nil => simp [text, membersText]
  | cons member others =>
    rw [membersTail] at tail
    simp only [text, membersText]
    simp_all

end Json

end Holdout
