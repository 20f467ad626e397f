/-
This file defines points of universal time. One is written in one way only, a date and a time of
day with the mark of universal time behind them. It is read with more freedom: the time can be
local if its distance from universal time follows, numbers need no zeros in front of them, and
white space may stand between the parts.
-/

import Holdout.Calendar
import Holdout.Text.Blank

namespace Holdout

/-- A point of universal time. -/
structure Timestamp where
  date : Date
  clock : Clock
deriving DecidableEq, Repr, Inhabited

namespace Timestamp

/-- The point of universal time at which a clock that is so many minutes ahead of it shows a local
time. The distance is less than a day, so the date moves by one day at most. -/
def ofLocal? (date : Date) (clock : Clock) (ahead : Int) : Option Timestamp :=
  let minutes : Int := clock.hour * 60 + clock.minute - ahead
  let universal : Clock :=
    { clock with hour := (minutes % 1440 / 60).toNat, minute := (minutes % 60).toNat }
  let day :=
    if minutes < 0 then date.previous? else if minutes < 1440 then some date else date.next?
  day.map fun date => ⟨date, universal⟩

/-! ### Reading -/

/-- A number in one to so many digits, which may have white space before it. -/
def numberAt? (most : Nat) (text : List Char) : Option (Nat × List Char) :=
  Text.upTo? most (Text.trimStart text)

/-- The text after a mark, which may have white space before it. -/
def markAt? (mark : Char) (text : List Char) : Option (List Char) :=
  Text.expect? mark (Text.trimStart text)

/-- A year: at most four digits, or a sign and any number of digits. -/
def yearAt? (text : List Char) : Option (Int × List Char) :=
  match Text.trimStart text with
  | '-' :: rest => (Text.upTo? rest.length rest).map fun (year, after) => (-(year : Int), after)
  | '+' :: rest => (Text.upTo? rest.length rest).map fun (year, after) => ((year : Int), after)
  | rest => (Text.upTo? 4 rest).map fun (year, after) => ((year : Int), after)

/-- A date with white space between its parts. -/
def dateAt? (text : List Char) : Option (Date × List Char) := do
  let (year, text) ← yearAt? text
  let text ← markAt? '-' text
  let (month, text) ← numberAt? 2 text
  let text ← markAt? '-' text
  let (day, text) ← numberAt? 2 text
  let date ← Date.ofParts? year month day
  return (date, text)

/-- A time of day with white space between its parts. -/
def clockAt? (text : List Char) : Option (Clock × List Char) := do
  let (hour, text) ← numberAt? 2 text
  let text ← markAt? ':' text
  let (minute, text) ← numberAt? 2 text
  let text ← markAt? ':' text
  let (second, text) ← numberAt? 2 text
  Clock.ofParts? hour minute second text

/-- A distance of less than a day in minutes: two digits for the hours and two for the minutes,
with any number of colons and white space between them. -/
def distanceAt? (text : List Char) : Option (Int × List Char) := do
  let (hours, text) ← Text.fixed? 2 text
  let text := text.dropWhile fun character => character == ':' || Text.isBlank character
  let (minutes, text) ← Text.fixed? 2 text
  if hours < 24 ∧ minutes < 60 then some ((hours * 60 + minutes : Nat), text) else none

/-- How many minutes a local time is ahead of universal time: a name of universal time, or a sign
and a distance. The sign for minus may be a hyphen or the mathematical one. -/
def aheadAt? (text : List Char) : Option (Int × List Char) :=
  match Text.afterWord? "utc" text, text with
  | some rest, _ => some (0, rest)
  | none, [] => none
  | none, mark :: rest =>
    if mark = 'Z' ∨ mark = 'z' then some (0, rest)
    else if mark = '+' then distanceAt? rest
    else if mark = '-' ∨ mark.toNat = 0x2212 then
      (distanceAt? rest).map fun (minutes, after) => (-minutes, after)
    else none

/-- The point of time that a whole text is. -/
def ofText? (text : List Char) : Option Timestamp := do
  let (date, text) ← dateAt? text
  match text with
  | [] => none
  | separator :: text =>
    let (clock, text) ← clockAt? text
    let (ahead, text) ← aheadAt? (Text.trimStart text)
    if Date.isSeparator separator && (Text.trimStart text).isEmpty then ofLocal? date clock ahead
    else none

/-! ### Writing -/

/-- The text of a point of time. -/
def text (timestamp : Timestamp) : List Char :=
  timestamp.date.text ++ 'T' :: timestamp.clock.text ++ ['Z']

end Timestamp

end Holdout
