/-
This file says who receives log lines. There is one receiver at most, with the filter it was
installed with; whoever comes later finds it installed and changes nothing.
-/

namespace Holdout

/-- The receiver of log lines, by its filter, if one is installed. -/
structure Logging where
  filter : Option String := none
deriving DecidableEq, Repr, Inhabited

namespace Logging

/-- Installs a receiver unless there is one, and says whether it was installed. -/
def install (logging : Logging) (filter : String) : Bool × Logging :=
  match logging.filter with
  | some _ => (false, logging)
  | none => (true, ⟨some filter⟩)

end Logging

end Holdout
