/-
This file reads TOML documents of version 1.0. A document is a tree of tables. Headers open
tables, and points in keys define them too, but nothing may be defined twice: a table is opened by
one header only, keys with points extend only tables that no header opened, no header opens a table
that such a key went through, and a table written as a value is closed for good.
-/

import Holdout.Toml.Text

namespace Holdout

/-- How a table of a document came to be. -/
inductive TomlOrigin where
  /-- It lies on the way to a table that a header opened. -/
  | implied
  /-- A header opened it. -/
  | header
  /-- The points of a key made it, or led through it. -/
  | dotted
deriving DecidableEq, Repr

/-- The origin of a table once a path has led into it, if the path may do so. A path of points does
not enter a table that a header opened, and takes over one that was only implied. -/
def TomlOrigin.entered? (own path : TomlOrigin) : Option TomlOrigin :=
  match own, path with
  | .header, .dotted => none
  | .implied, .dotted => some .dotted
  | own, _ => some own

/-- A node of a document. -/
inductive TomlNode where
  | value (value : Toml)
  | table (origin : TomlOrigin) (entries : List (String × TomlNode))
  /-- Tables that headers in double brackets opened, the newest first. -/
  | tables (items : List (List (String × TomlNode)))

namespace Toml

/-- The entries of a table. -/
abbrev Entries := List (String × TomlNode)

/-- Puts a node in the place of the one under its name, or at the end. -/
def setEntry (name : String) (node : TomlNode) : Entries → Entries
  | [] => [(name, node)]
  | entry :: rest =>
    if entry.1 = name then (name, node) :: rest else entry :: setEntry name node rest

/-- Goes down a path and changes the entries at its end. Tables that are missing are made with
`origin`; of tables in double brackets the newest is taken. -/
def descend? (origin : TomlOrigin) (change : TomlOrigin → Entries → Option Entries)
    (here : TomlOrigin) : List String → Entries → Option Entries
  | [], entries => change here entries
  | name :: path, entries =>
    match entries.lookup name with
    | none => do
      let inner ← descend? origin change origin path []
      return setEntry name (.table origin inner) entries
    | some (.table own inner) => do
      let own ← own.entered? origin
      let inner ← descend? origin change own path inner
      return setEntry name (.table own inner) entries
    | some (.tables (newest :: older)) => do
      let inner ← descend? origin change .header path newest
      return setEntry name (.tables (inner :: older)) entries
    | some (.tables []) => none
    | some (.value _) => none

/-- Defines a value in a table. A key with points puts it into a table that points made or led
through. -/
def define? (path : List String) (value : Toml) (entries : Entries) : Option Entries :=
  let plain := path.length ≤ 1
  descend? .dotted
    (fun here inner =>
      if !plain && here != .dotted then none
      else match path.getLast? with
        | none => none
        | some name =>
          if (inner.lookup name).isSome then none else some (setEntry name (.value value) inner))
    .header path.dropLast entries

/-- Opens the table of a header. -/
def openTable? (path : List String) (document : Entries) : Option Entries :=
  descend? .implied
    (fun _ inner =>
      match path.getLast? with
      | none => none
      | some name =>
        match inner.lookup name with
        | none => some (setEntry name (.table .header []) inner)
        | some (.table .implied entries) => some (setEntry name (.table .header entries) inner)
        | some _ => none)
    .header path.dropLast document

/-- Opens one more table under a header in double brackets. -/
def openNext? (path : List String) (document : Entries) : Option Entries :=
  descend? .implied
    (fun _ inner =>
      match path.getLast? with
      | none => none
      | some name =>
        match inner.lookup name with
        | none => some (setEntry name (.tables [[]]) inner)
        | some (.tables items) => some (setEntry name (.tables ([] :: items)) inner)
        | some _ => none)
    .header path.dropLast document

/-- Changes the table that a path leads to, the newest where there are several. -/
def within? (path : List String) (change : Entries → Option Entries) (document : Entries) :
    Option Entries :=
  descend? .implied (fun _ inner => change inner) .header path document

/-! ### Values -/

/-- Whether a character may stand in a value that is a single word. -/
def isWordChar (character : Char) : Bool :=
  isBare character || character == '+' || character == '.' || character == ':'

/-- Reads a value that is a single word. A date may be followed by a blank and a time. -/
def wordAt? (text : List Char) : Option (Toml × List Char) :=
  let word := text.takeWhile isWordChar
  let rest := text.dropWhile isWordChar
  match Date.at? word, rest with
  | some (_, []), ' ' :: digit :: more =>
    if Decimal.isDigit digit then
      let clock := digit :: more
      let both := word ++ ' ' :: clock.takeWhile isWordChar
      (word? both).map fun value => (value, clock.dropWhile isWordChar)
    else (word? word).map fun value => (value, rest)
  | _, _ => (word? word).map fun value => (value, rest)

mutual

/-- The values that a table has, its inner tables written as values too. -/
def nodeValue : TomlNode → Toml
  | .value value => value
  | .table _ entries => .inlineTable (entryValues entries)
  | .tables items => .array (itemValues items)
termination_by structural node => node

/-- The entries of a table as values. -/
def entryValues : List (String × TomlNode) → List (String × Toml)
  | [] => []
  | entry :: rest => entryValue entry :: entryValues rest
termination_by structural entries => entries

/-- One entry as a value. -/
def entryValue : String × TomlNode → String × Toml
  | (name, node) => (name, nodeValue node)
termination_by structural entry => entry

/-- Tables in double brackets as values. -/
def itemValues : List (List (String × TomlNode)) → List Toml
  | [] => []
  | entries :: rest => .inlineTable (entryValues entries) :: itemValues rest
termination_by structural items => items

end

mutual

/-- Reads a value in which arrays and tables nest to no more than `room` levels. Every step takes at
least one character, so the number of characters is fuel enough. -/
def valueAt? : (fuel room : Nat) → List Char → Option (Toml × List Char)
  | 0, _, _ => none
  | fuel + 1, room, text =>
    match text, room with
    | '"' :: _, _ | '\'' :: _, _ =>
      (stringAt? text).map fun (characters, rest) => (.string (String.ofList characters), rest)
    | '[' :: _, 0 | '{' :: _, 0 => none
    | '[' :: rest, room + 1 => do
      let inner ← skipLines? rest.length rest
      match inner with
      | ']' :: after => return (.array [], after)
      | _ =>
        let (elements, after) ← elementsAt? fuel room inner
        return (.array elements, after)
    | '{' :: rest, room + 1 =>
      match skipBlanks rest with
      | '}' :: after => some (.inlineTable [], after)
      | inner => do
        let (entries, after) ← entriesAt? fuel room [] inner
        return (.inlineTable (entryValues entries), after)
    | _, _ => wordAt? text
termination_by structural fuel => fuel

/-- Reads the elements of an array up to its closing bracket; a comma may stand before it. -/
def elementsAt? : (fuel room : Nat) → List Char → Option (List Toml × List Char)
  | 0, _, _ => none
  | fuel + 1, room, text => do
    let (element, rest) ← valueAt? fuel room text
    let afterElement ← skipLines? rest.length rest
    match afterElement with
    | ']' :: after => return ([element], after)
    | ',' :: more =>
      let next ← skipLines? more.length more
      match next with
      | ']' :: after => return ([element], after)
      | _ =>
        let (elements, after) ← elementsAt? fuel room next
        return (element :: elements, after)
    | _ => none
termination_by structural fuel => fuel

/-- Reads the entries of a table that is written as a value, on one line, up to its closing
brace. -/
def entriesAt? : (fuel room : Nat) → Entries → List Char → Option (Entries × List Char)
  | 0, _, _, _ => none
  | fuel + 1, room, entries, text => do
    let (path, afterKey) ← keyAt? text
    let valueText ← Text.expect? '=' afterKey
    let (value, rest) ← valueAt? fuel room (skipBlanks valueText)
    let entries ← define? path value entries
    match skipBlanks rest with
    | '}' :: after => return (entries, after)
    | ',' :: more => entriesAt? fuel room entries (skipBlanks more)
    | _ => none
termination_by structural fuel => fuel

end

/-! ### Lines -/

/-- A line of a document that is not empty. -/
inductive Line where
  | header (path : List String)
  | nextHeader (path : List String)
  | entry (path : List String) (value : Toml)

/-- Reads one line up to what may follow it. -/
def lineAt? (text : List Char) : Option (Line × List Char) :=
  match text with
  | '[' :: '[' :: rest => do
    let (path, afterKey) ← keyAt? rest
    match afterKey with
    | ']' :: ']' :: after => return (.nextHeader path, after)
    | _ => none
  | '[' :: rest => do
    let (path, afterKey) ← keyAt? rest
    let after ← Text.expect? ']' afterKey
    return (.header path, after)
  | _ => do
    let (path, afterKey) ← keyAt? text
    let valueText ← Text.expect? '=' afterKey
    let body := skipBlanks valueText
    let (value, after) ← valueAt? (body.length + 1) depthLimit body
    return (.entry path value, after)

/-- Reads all lines. Every line has at least one character, so the number of characters is fuel
enough. -/
def linesAt? : Nat → List Char → Option (List Line)
  | 0, text => if text.isEmpty then some [] else none
  | fuel + 1, text => do
    let body ← skipLines? text.length text
    if body.isEmpty then return []
    else
      let (line, rest) ← lineAt? body
      let after ← endLine? rest
      let lines ← linesAt? fuel after
      return line :: lines

/-- Puts lines together: entries belong to the table of the header before them. -/
def assemble? : (place : List String) → Entries → List Line → Option Entries
  | _, document, [] => some document
  | _, document, .header path :: rest => do
    let document ← openTable? path document
    assemble? path document rest
  | _, document, .nextHeader path :: rest => do
    let document ← openNext? path document
    assemble? path document rest
  | place, document, .entry path value :: rest => do
    let document ← within? place (define? path value) document
    assemble? place document rest

/-- The top of a document as values, if the text is a document. A byte order mark may stand
before it. -/
def parse? (text : List Char) : Option (List (String × Toml)) := do
  let body := match text with
    | first :: rest => if first.toNat = 0xFEFF then rest else text
    | [] => []
  let lines ← linesAt? (body.length + 1) body
  let document ← assemble? [] [] lines
  return entryValues document

end Toml

end Holdout
