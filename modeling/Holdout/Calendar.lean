/-
This file defines dates and times of day with their usual digits: a date is a year, a month and a
day, a time of day goes down to nanoseconds. A date has a day before and a day after it, up to the
ends of the calendar.
-/

import Holdout.Decimal.Numeral
import Holdout.Text.Scan

namespace Holdout

/-- A day of the Gregorian calendar. -/
structure Date where
  year : Int
  month : Nat
  day : Nat
deriving DecidableEq, Repr, Inhabited

/-- A time of day. The second can be a leap second. -/
structure Clock where
  hour : Nat
  minute : Nat
  second : Nat
  nanosecond : Nat
deriving DecidableEq, Repr, Inhabited

namespace Date

/-- The first year of the calendar. -/
def firstYear : Int := -262143

/-- The last year of the calendar. -/
def lastYear : Int := 262142

/-- The days of a month. -/
def daysIn (year : Int) (month : Nat) : Nat :=
  if month = 2 then
    if year % 4 = 0 ∧ (year % 100 ≠ 0 ∨ year % 400 = 0) then 29 else 28
  else if month = 4 ∨ month = 6 ∨ month = 9 ∨ month = 11 then 30
  else 31

/-- The date of a year, a month and a day, if the calendar has it. -/
def ofParts? (year : Int) (month day : Nat) : Option Date :=
  if firstYear ≤ year ∧ year ≤ lastYear ∧ 1 ≤ month ∧ month ≤ 12 ∧
      1 ≤ day ∧ day ≤ daysIn year month then
    some ⟨year, month, day⟩
  else none

/-- The day after a date, if there is one. -/
def next? (date : Date) : Option Date :=
  if date.day < daysIn date.year date.month then some { date with day := date.day + 1 }
  else if date.month < 12 then some ⟨date.year, date.month + 1, 1⟩
  else ofParts? (date.year + 1) 1 1

/-- The day before a date, if there is one. -/
def previous? (date : Date) : Option Date :=
  if 1 < date.day then some { date with day := date.day - 1 }
  else if 1 < date.month then
    some ⟨date.year, date.month - 1, daysIn date.year (date.month - 1)⟩
  else ofParts? (date.year - 1) 12 31

/-- The date at the front of a text, with all its digits, and the text after it. -/
def at? (text : List Char) : Option (Date × List Char) := do
  let (year, text) ← Text.fixed? 4 text
  let text ← Text.expect? '-' text
  let (month, text) ← Text.fixed? 2 text
  let text ← Text.expect? '-' text
  let (day, text) ← Text.fixed? 2 text
  let date ← ofParts? year month day
  return (date, text)

/-- Whether a character may stand between a date and a time of day. -/
def isSeparator (character : Char) : Bool :=
  character == 'T' || character == 't' || character == ' '

/-- The text of a year: four digits, or else a sign and at least four digits. -/
def yearText (year : Int) : List Char :=
  let digits := Decimal.padded 4 year.natAbs
  if year < 0 then '-' :: digits
  else if year ≤ 9999 then digits
  else '+' :: digits

/-- The text of a date. -/
def text (date : Date) : List Char :=
  yearText date.year ++ '-' :: Decimal.padded 2 date.month ++ '-' :: Decimal.padded 2 date.day

end Date

namespace Clock

/-- The nanoseconds that digits behind the point stand for; from the tenth on they do not count. -/
def nanosecondsOf (digits : List Char) : Nat :=
  Decimal.valueOf (digits.take 9) * tenTo (9 - digits.length)

/-- The time of day of an hour, a minute and a second, if there is one, with the part of a second
that may stand at the front of a text, and the text after it. -/
def ofParts? (hour minute second : Nat) (text : List Char) : Option (Clock × List Char) :=
  if 24 ≤ hour ∨ 60 ≤ minute ∨ 60 < second then none
  else match text with
    | '.' :: fraction =>
      match Decimal.spanDigits fraction with
      | ([], _) => none
      | (digits, rest) => some (⟨hour, minute, second, nanosecondsOf digits⟩, rest)
    | rest => some (⟨hour, minute, second, 0⟩, rest)

/-- The time of day at the front of a text, with all its digits, and the text after it. -/
def at? (text : List Char) : Option (Clock × List Char) := do
  let (hour, text) ← Text.fixed? 2 text
  let text ← Text.expect? ':' text
  let (minute, text) ← Text.fixed? 2 text
  let text ← Text.expect? ':' text
  let (second, text) ← Text.fixed? 2 text
  ofParts? hour minute second text

/-- The digits behind the seconds, in groups of three. -/
def fractionText (nanosecond : Nat) : List Char :=
  if nanosecond = 0 then []
  else if nanosecond % 1000000 = 0 then '.' :: Decimal.padded 3 (nanosecond / 1000000)
  else if nanosecond % 1000 = 0 then '.' :: Decimal.padded 6 (nanosecond / 1000)
  else '.' :: Decimal.padded 9 nanosecond

/-- The text of a time of day. -/
def text (clock : Clock) : List Char :=
  Decimal.padded 2 clock.hour ++ ':' :: Decimal.padded 2 clock.minute ++
    ':' :: Decimal.padded 2 clock.second ++ fractionText clock.nanosecond

end Clock

end Holdout
