/-
This file reads the strings and keys of TOML documents, and what may stand between their parts.
A string is quoted with single or double quotes, once for one line or three times for several;
only double quotes have escapes. A key is a word, or a string of one line.
-/

import Holdout.Text.Hex
import Holdout.Toml.Value

namespace Holdout

namespace Toml

/-! ### Between the parts -/

/-- Whether a character is a blank inside of a line. -/
def isBlank (character : Char) : Bool := character == ' ' || character == '\t'

/-- A text without the blanks at its front. -/
def skipBlanks (text : List Char) : List Char := text.dropWhile isBlank

/-- Whether a control character may not stand in a string or in a comment. -/
def isControl (character : Char) : Bool :=
  (decide (character.toNat < 32) && character != '\t') || character.toNat == 127

/-- A text without the comment at its front; a comment goes to the end of its line. -/
def skipComment? : List Char → Option (List Char)
  | '#' :: rest =>
    let after := rest.dropWhile fun character => !isControl character
    match after with
    | [] | '\n' :: _ | '\r' :: '\n' :: _ => some after
    | _ => none
  | text => some text

/-- The text after the end of a line, which may have blanks and a comment before it. -/
def endLine? (text : List Char) : Option (List Char) :=
  match skipComment? (skipBlanks text) with
  | some [] => some []
  | some ('\n' :: rest) => some rest
  | some ('\r' :: '\n' :: rest) => some rest
  | _ => none

/-- A text without the blanks, line ends and comments at its front. Every step takes at least one
character, so the number of characters is fuel enough. -/
def skipLines? : Nat → List Char → Option (List Char)
  | 0, text => some text
  | fuel + 1, text =>
    match skipBlanks text with
    | '\n' :: rest => skipLines? fuel rest
    | '\r' :: '\n' :: rest => skipLines? fuel rest
    | '#' :: rest =>
      match skipComment? ('#' :: rest) with
      | some after => skipLines? fuel after
      | none => none
    | rest => some rest

/-! ### Strings -/

/-- The character with a code, if there is one. -/
def charOf? (code : Nat) : Option Char :=
  if code < 0xD800 ∨ 0xE000 ≤ code ∧ code < 0x110000 then some (Char.ofNat code) else none

/-- The character that a short escape stands for. -/
def shortEscape? (mark : Char) : Option Char :=
  if mark = '"' then some '"'
  else if mark = '\\' then some '\\'
  else if mark = 'b' then some (Char.ofNat 8)
  else if mark = 'f' then some (Char.ofNat 12)
  else if mark = 'n' then some '\n'
  else if mark = 'r' then some '\r'
  else if mark = 't' then some '\t'
  else none

/-- A reading with one more character in front. -/
def withChar (character : Char) (reading : Option (List Char × List Char)) :
    Option (List Char × List Char) :=
  reading.map fun (characters, rest) => (character :: characters, rest)

/-- Reads the rest of a double-quoted string of one line. -/
def basicAt? : List Char → Option (List Char × List Char)
  | [] => none
  | '"' :: rest => some ([], rest)
  | '\\' :: 'u' :: a :: b :: c :: d :: rest => do
    let character ← charOf? (← Text.hexNumber? [a, b, c, d])
    withChar character (basicAt? rest)
  | '\\' :: 'U' :: a :: b :: c :: d :: e :: f :: g :: h :: rest => do
    let character ← charOf? (← Text.hexNumber? [a, b, c, d, e, f, g, h])
    withChar character (basicAt? rest)
  | '\\' :: mark :: rest => do
    let character ← shortEscape? mark
    withChar character (basicAt? rest)
  | character :: rest =>
    if character = '\\' ∨ isControl character then none else withChar character (basicAt? rest)

/-- Reads the rest of a single-quoted string of one line. -/
def literalAt? : List Char → Option (List Char × List Char)
  | [] => none
  | '\'' :: rest => some ([], rest)
  | character :: rest =>
    if isControl character then none else withChar character (literalAt? rest)

/-- Quotes at the end of a string of several lines: up to two of them belong to it. -/
def closing (quote : Char) (text : List Char) : List Char × List Char :=
  match text with
  | first :: second :: rest =>
    if first = quote then
      if second = quote then ([quote, quote], rest) else ([quote], second :: rest)
    else ([], first :: second :: rest)
  | [first] => if first = quote then ([quote], []) else ([], [first])
  | [] => ([], [])

/-- Reads the rest of a single-quoted string of several lines. -/
def longLiteralAt? : List Char → Option (List Char × List Char)
  | [] => none
  | '\'' :: '\'' :: '\'' :: rest => some (closing '\'' rest)
  | '\n' :: rest => withChar '\n' (longLiteralAt? rest)
  | '\r' :: '\n' :: rest => withChar '\n' (longLiteralAt? rest)
  | character :: rest =>
    if isControl character then none else withChar character (longLiteralAt? rest)

/-- Where the reader of a double-quoted string of several lines stands. -/
inductive LongState where
  /-- Among the characters of the string. -/
  | inside
  /-- After a backslash and blanks, before the end of the line. -/
  | beforeLineEnd
  /-- After a backslash and a line end, before anything but blanks and line ends. -/
  | afterLineEnd

/-- Reads the rest of a double-quoted string of several lines. A backslash at the end of a line
takes away the blanks and line ends up to the next character. -/
def longBasicAt? : LongState → List Char → Option (List Char × List Char)
  | _, [] => none
  | .beforeLineEnd, '\n' :: rest => longBasicAt? .afterLineEnd rest
  | .beforeLineEnd, '\r' :: '\n' :: rest => longBasicAt? .afterLineEnd rest
  | .beforeLineEnd, character :: rest =>
    if isBlank character then longBasicAt? .beforeLineEnd rest else none
  | .afterLineEnd, '\n' :: rest => longBasicAt? .afterLineEnd rest
  | .afterLineEnd, '\r' :: '\n' :: rest => longBasicAt? .afterLineEnd rest
  | .afterLineEnd, ' ' :: rest => longBasicAt? .afterLineEnd rest
  | .afterLineEnd, '\t' :: rest => longBasicAt? .afterLineEnd rest
  | _, '"' :: '"' :: '"' :: rest => some (closing '"' rest)
  | _, '\\' :: 'u' :: a :: b :: c :: d :: rest => do
    let character ← charOf? (← Text.hexNumber? [a, b, c, d])
    withChar character (longBasicAt? .inside rest)
  | _, '\\' :: 'U' :: a :: b :: c :: d :: e :: f :: g :: h :: rest => do
    let character ← charOf? (← Text.hexNumber? [a, b, c, d, e, f, g, h])
    withChar character (longBasicAt? .inside rest)
  | _, '\\' :: '\n' :: rest => longBasicAt? .afterLineEnd rest
  | _, '\\' :: '\r' :: '\n' :: rest => longBasicAt? .afterLineEnd rest
  | _, '\\' :: mark :: rest =>
    if isBlank mark then longBasicAt? .beforeLineEnd rest
    else do
      let character ← shortEscape? mark
      withChar character (longBasicAt? .inside rest)
  | _, '\n' :: rest => withChar '\n' (longBasicAt? .inside rest)
  | _, '\r' :: '\n' :: rest => withChar '\n' (longBasicAt? .inside rest)
  | _, character :: rest =>
    if character = '\\' ∨ isControl character then none
    else withChar character (longBasicAt? .inside rest)

/-- A text without the line end at its front. -/
def skipLineEnd : List Char → List Char
  | '\n' :: rest => rest
  | '\r' :: '\n' :: rest => rest
  | text => text

/-- Reads a string of any kind. -/
def stringAt? : List Char → Option (List Char × List Char)
  | '"' :: '"' :: '"' :: rest => longBasicAt? .inside (skipLineEnd rest)
  | '"' :: rest => basicAt? rest
  | '\'' :: '\'' :: '\'' :: rest => longLiteralAt? (skipLineEnd rest)
  | '\'' :: rest => literalAt? rest
  | _ => none

/-! ### Keys -/

/-- Whether a character may stand in a key without quotes. -/
def isBare (character : Char) : Bool :=
  Decimal.isDigit character || ('a' ≤ character && character ≤ 'z') ||
    ('A' ≤ character && character ≤ 'Z') || character == '_' || character == '-'

/-- Reads one part of a key. -/
def partAt? (text : List Char) : Option (String × List Char) :=
  match text with
  | '"' :: rest => (basicAt? rest).map fun (name, after) => (String.ofList name, after)
  | '\'' :: rest => (literalAt? rest).map fun (name, after) => (String.ofList name, after)
  | _ =>
    match text.takeWhile isBare with
    | [] => none
    | name => some (String.ofList name, text.dropWhile isBare)

/-- The most parts that a key may have, and the most levels to which arrays and tables in a value
may nest. -/
def depthLimit : Nat := 80

/-- Reads the parts of a key, which are joined by points, with blanks around them. Every part has
at least one character, so the number of characters is fuel enough. -/
def partsAt? : Nat → List Char → Option (List String × List Char)
  | 0, _ => none
  | fuel + 1, text => do
    let (part, rest) ← partAt? (skipBlanks text)
    match skipBlanks rest with
    | '.' :: more =>
      let (parts, after) ← partsAt? fuel more
      return (part :: parts, after)
    | after => return ([part], after)

/-- Reads a key, which has no more parts than `depthLimit`. -/
def keyAt? (text : List Char) : Option (List String × List Char) := do
  let (parts, after) ← partsAt? text.length text
  if parts.length ≤ depthLimit then some (parts, after) else none

end Toml

end Holdout
