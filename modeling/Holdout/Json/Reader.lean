/-
This file reads JSON text. Blanks are space, tab, line feed and carriage return; numbers have no
leading zeros; strings hold no control characters. Where the text stops being JSON the reader
leaves a mark in the document and reads no further, so that what was read before the mark can
still be judged first.
-/

import Holdout.Json.Numeral
import Holdout.Text.Hex

namespace Holdout

namespace Json

/-- Whether a character may stand between the parts of a document. -/
def isGap (character : Char) : Bool :=
  character == ' ' || character == '\n' || character == '\t' || character == '\r'

/-- A text without the blanks at its front. -/
def skipGap (text : List Char) : List Char := text.dropWhile isGap

/-! ### Strings -/

/-- The value of four hexadecimal digits. -/
def hexCode? (first second third fourth : Char) : Option Nat := do
  let a ← Text.hexValue? first
  let b ← Text.hexValue? second
  let c ← Text.hexValue? third
  let d ← Text.hexValue? fourth
  return ((a * 16 + b) * 16 + c) * 16 + d

/-- Whether a code is the first half of a surrogate pair. -/
def isHighHalf (code : Nat) : Bool := 0xD800 ≤ code && code < 0xDC00

/-- Whether a code is the second half of a surrogate pair. -/
def isLowHalf (code : Nat) : Bool := 0xDC00 ≤ code && code < 0xE000

/-- The character of a surrogate pair. -/
def pairedChar (high low : Nat) : Char :=
  Char.ofNat (0x10000 + (high - 0xD800) * 0x400 + (low - 0xDC00))

/-- The character that a short escape stands for. -/
def shortEscape? (character : Char) : Option Char :=
  if character = '"' then some '"'
  else if character = '\\' then some '\\'
  else if character = '/' then some '/'
  else if character = 'b' then some (Char.ofNat 8)
  else if character = 'f' then some (Char.ofNat 12)
  else if character = 'n' then some '\n'
  else if character = 'r' then some '\r'
  else if character = 't' then some '\t'
  else none

/-- What a string is written of: characters, and codes of 16 bits. -/
inductive StringUnit where
  | plain (character : Char)
  | code (value : Nat)

/-- Reads the rest of a string after its opening quote, and gives the text behind its closing
quote too. -/
def unitsAt? : List Char → Option (List StringUnit × List Char)
  | [] => none
  | '"' :: rest => some ([], rest)
  | '\\' :: 'u' :: a :: b :: c :: d :: rest =>
    match hexCode? a b c d, unitsAt? rest with
    | some code, some (units, after) => some (.code code :: units, after)
    | _, _ => none
  | '\\' :: mark :: rest =>
    match shortEscape? mark, unitsAt? rest with
    | some character, some (units, after) => some (.plain character :: units, after)
    | _, _ => none
  | character :: rest =>
    if character = '\\' ∨ character.toNat < 32 then none
    else match unitsAt? rest with
      | some (units, after) => some (.plain character :: units, after)
      | none => none

/-- The characters of a string, if every half of a surrogate pair stands beside the other. -/
def charactersOf? : List StringUnit → Option (List Char)
  | [] => some []
  | .plain character :: rest => (charactersOf? rest).map (character :: ·)
  | .code high :: .code low :: rest =>
    if isHighHalf high && isLowHalf low then
      (charactersOf? rest).map (pairedChar high low :: ·)
    else if isHighHalf high || isLowHalf high then none
    else (charactersOf? (.code low :: rest)).map (Char.ofNat high :: ·)
  | .code code :: rest =>
    if isHighHalf code || isLowHalf code then none
    else (charactersOf? rest).map (Char.ofNat code :: ·)

/-- Reads the rest of a string after its opening quote. The characters are missing if there is
half of a surrogate pair among them. -/
def stringAt? (text : List Char) : Option (Option (List Char) × List Char) :=
  (unitsAt? text).map fun (units, rest) => (charactersOf? units, rest)

/-! ### Numbers -/

/-- The digits before the point: no zero stands in front of another digit. -/
def wholeAt? (text : List Char) : Option (List Char × List Char) :=
  match Decimal.spanDigits text with
  | ([], _) => none
  | ('0' :: _ :: _, _) => none
  | reading => some reading

/-- A point with its digits, if there is one. -/
def fractionAt? : List Char → Option (List Char × List Char)
  | '.' :: rest =>
    match Decimal.spanDigits rest with
    | ([], _) => none
    | reading => some reading
  | text => some ([], text)

/-- An exponent, if there is one. -/
def exponentAt? (text : List Char) : Option (Option Int × List Char) :=
  match text with
  | mark :: _ =>
    if mark = 'e' ∨ mark = 'E' then
      (Decimal.spanExponent? text).map fun (exponent, rest) => (some exponent, rest)
    else some (none, text)
  | [] => some (none, [])

/-- Reads a number. -/
def numberAt? (text : List Char) : Option (JsonNumber × List Char) :=
  let (negative, body) := match text with
    | '-' :: rest => (true, rest)
    | rest => (false, rest)
  match wholeAt? body with
  | none => none
  | some (whole, afterWhole) =>
    match fractionAt? afterWhole with
    | none => none
    | some (fraction, afterFraction) =>
      match exponentAt? afterFraction with
      | none => none
      | some (exponent, rest) => some (numberOf negative whole fraction exponent, rest)

/-! ### Documents -/

/-- What was read, and the text behind it, missing where the text broke. -/
abbrev Reading (Value : Type) := Value × Option (List Char)

/-- The string that was read, or the mark of one that cannot be used. -/
def ofCharacters : Option (List Char) → Json
  | some characters => .string (String.ofList characters)
  | none => .unpaired

mutual

/-- Reads a document. Every step takes at least one character, so the number of characters is
fuel enough. -/
def valueAt : Nat → List Char → Reading Json
  | 0, _ => (.broken, none)
  | fuel + 1, text =>
    match skipGap text with
    | '{' :: rest =>
      match skipGap rest with
      | '}' :: after => (.object [], some after)
      | inner =>
        let (members, after) := membersAt fuel inner
        (.object members, after)
    | '[' :: rest =>
      match skipGap rest with
      | ']' :: after => (.array [], some after)
      | inner =>
        let (elements, after) := elementsAt fuel inner
        (.array elements, after)
    | '"' :: rest =>
      match stringAt? rest with
      | some (characters, after) => (ofCharacters characters, some after)
      | none => (.broken, none)
    | 't' :: 'r' :: 'u' :: 'e' :: after => (.bool true, some after)
    | 'f' :: 'a' :: 'l' :: 's' :: 'e' :: after => (.bool false, some after)
    | 'n' :: 'u' :: 'l' :: 'l' :: after => (.null, some after)
    | inner =>
      match numberAt? inner with
      | some (value, after) => (.number value, some after)
      | none => (.broken, none)
termination_by structural fuel => fuel

/-- Reads elements up to the closing bracket. -/
def elementsAt : Nat → List Char → Reading (List Json)
  | 0, _ => ([.broken], none)
  | fuel + 1, text =>
    match valueAt fuel text with
    | (element, none) => ([element], none)
    | (element, some rest) =>
      match skipGap rest with
      | ',' :: more =>
        let (elements, after) := elementsAt fuel more
        (element :: elements, after)
      | ']' :: after => ([element], some after)
      | _ => ([element, .broken], none)
termination_by structural fuel => fuel

/-- Reads members up to the closing brace. -/
def membersAt : Nat → List Char → Reading (List (Option String × Json))
  | 0, _ => ([(none, .broken)], none)
  | fuel + 1, text =>
    match skipGap text with
    | '"' :: body =>
      match stringAt? body with
      | none => ([(none, .broken)], none)
      | some (characters, afterName) =>
        match skipGap afterName with
        | ':' :: rest =>
          let name := characters.map String.ofList
          match valueAt fuel rest with
          | (value, none) => ([(name, value)], none)
          | (value, some rest) =>
            match skipGap rest with
            | ',' :: more =>
              let (members, after) := membersAt fuel more
              ((name, value) :: members, after)
            | '}' :: after => ([(name, value)], some after)
            | _ => ([(name, value), (none, .broken)], none)
        | _ => ([(characters.map String.ofList, .broken)], none)
    | _ => ([(none, .broken)], none)
termination_by structural fuel => fuel

end

/-- Reads a whole text: its document, and whether nothing but blanks follows it. -/
def ofText (text : List Char) : Json × Bool :=
  match valueAt (text.length + 1) text with
  | (document, some rest) => (document, (skipGap rest).isEmpty)
  | (document, none) => (document, false)

end Json

end Holdout
