/-
This file defines what calling foreign code gives. Scorers, metrics and split sources come from
outside and can crash; whoever calls them catches the crash and goes on, so a crash is a value
here and carries the text it was raised with.
-/

namespace Holdout

/-- A crash of foreign code. -/
structure Crash where
  text : String
deriving DecidableEq, Repr

/-- The wording of a crash in reports. -/
def Crash.message (crash : Crash) : String := s!"panicked: {crash.text}"

/-- The result of a call that can crash. -/
abbrev Guarded (Value : Type) := Except Crash Value

end Holdout
