/-
This file defines the values of TOML documents and reads those that are single words: numbers,
truth values and times. Digits may be grouped by single underscores. A whole number keeps its
value whatever its size, and a float past the largest double keeps only that it is one; nothing
here needs to know which time a time is.
-/

import Holdout.Calendar

namespace Holdout

/-- A value of a TOML document. -/
inductive Toml where
  | string (value : String)
  | integer (value : Int)
  | float (value : Float)
  /-- A finite numeral past the largest finite double. -/
  | hugeFloat
  | boolean (value : Bool)
  /-- A date, a time, or both. -/
  | time
  | array (elements : List Toml)
  /-- A table that was written as a value. -/
  | inlineTable (entries : List (String × Toml))

namespace Toml

/-! ### Digits -/

/-- The digits of a run without its underscores. Every underscore has to stand between two
digits; `afterDigit` says whether the character before the run was one. -/
def ungrouped? (isDigit : Char → Bool) (afterDigit : Bool) : List Char → Option (List Char)
  | [] => if afterDigit then some [] else none
  | character :: rest =>
    if isDigit character then (ungrouped? isDigit true rest).map (character :: ·)
    else if character = '_' ∧ afterDigit then ungrouped? isDigit false rest
    else none

/-- The value of a digit of any base up to sixteen. -/
def digitOf (character : Char) : Nat :=
  if Decimal.isDigit character then Decimal.digitValue character
  else character.toLower.toNat - 'a'.toNat + 10

/-- Whether a character is a digit of a base. -/
def isDigitOf (base : Nat) (character : Char) : Bool :=
  (Decimal.isDigit character || ('a' ≤ character && character ≤ 'f') ||
    ('A' ≤ character && character ≤ 'F')) && decide (digitOf character < base)

/-- The value of digits of a base. -/
def valueIn (base : Nat) (digits : List Char) : Nat :=
  digits.foldl (fun value character => value * base + digitOf character) 0

/-! ### Numbers -/

/-- A whole number in a base other than ten. -/
def based? (base : Nat) (text : List Char) : Option Toml :=
  (ungrouped? (isDigitOf base) false text).map fun digits => .integer (valueIn base digits)

/-- Decimal digits without a zero in front of another digit. -/
def plain? (text : List Char) : Option (List Char) :=
  match ungrouped? Decimal.isDigit false text with
  | some ('0' :: _ :: _) => none
  | digits => digits

/-- Whether a character belongs to a run of grouped digits. -/
def isGrouped (character : Char) : Bool := Decimal.isDigit character || character == '_'

/-- The exponent that fills a text, or zero for none. -/
def exponent? : List Char → Option Int
  | [] => some 0
  | mark :: text =>
    if mark = 'e' ∨ mark = 'E' then
      let (negative, body) := Decimal.spanSign text
      (ungrouped? Decimal.isDigit false body).map fun digits =>
        if negative then -(Decimal.valueOf digits : Int) else Decimal.valueOf digits
    else none

/-- A decimal number without its sign: whole if it has neither point nor exponent. -/
def unsigned? (negative : Bool) (text : List Char) : Option Toml := do
  let whole ← plain? (text.takeWhile isGrouped)
  let float := fun (fraction : List Char) (exponent : Int) =>
    let magnitude := (Decimal.ofParts whole fraction exponent).toFloat
    if magnitude.isFinite then .float (Decimal.signed negative magnitude) else .hugeFloat
  match text.dropWhile isGrouped with
  | [] =>
    let value : Int := Decimal.valueOf whole
    return .integer (if negative then -value else value)
  | '.' :: rest =>
    let fraction ← ungrouped? Decimal.isDigit false (rest.takeWhile isGrouped)
    let exponent ← exponent? (rest.dropWhile isGrouped)
    return float fraction exponent
  | rest =>
    let exponent ← exponent? rest
    return float [] exponent

/-- A number, signed or not; the two values that are no finite numbers have names. -/
def number? (text : List Char) : Option Toml :=
  match text with
  | '0' :: 'x' :: digits => based? 16 digits
  | '0' :: 'o' :: digits => based? 8 digits
  | '0' :: 'b' :: digits => based? 2 digits
  | _ =>
    let (negative, body) := Decimal.spanSign text
    if body = ['i', 'n', 'f'] then some (.float (Decimal.signed negative (1.0 / 0.0)))
    else if body = ['n', 'a', 'n'] then some (.float (0.0 / 0.0))
    else unsigned? negative body

/-! ### Times -/

/-- Whether a text is a distance from universal time, or nothing. -/
def isOffset (text : List Char) : Bool :=
  match text with
  | [] | ['Z'] | ['z'] => true
  | sign :: rest =>
    if sign = '+' ∨ sign = '-' then
      match Text.fixed? 2 rest with
      | some (hour, ':' :: rest) =>
        match Text.fixed? 2 rest with
        | some (minute, []) => decide (hour < 24) && decide (minute < 60)
        | _ => false
      | _ => false
    else false

/-- Whether a text is a date, a time, or both with a `T` or a blank between them. -/
def isTime (text : List Char) : Bool :=
  match Date.at? text with
  | some (_, []) => true
  | some (_, separator :: rest) =>
    if Date.isSeparator separator then
      match Clock.at? rest with
      | some (_, offset) => isOffset offset
      | none => false
    else false
  | none =>
    match Clock.at? text with
    | some (_, []) => true
    | _ => false

/-- The value that a word is, if it is one. -/
def word? (text : List Char) : Option Toml :=
  if text = ['t', 'r', 'u', 'e'] then some (.boolean true)
  else if text = ['f', 'a', 'l', 's', 'e'] then some (.boolean false)
  else if isTime text then some .time
  else number? text

end Toml

end Holdout
