/-
This file says why a metric can have no value for a list. Such an error concerns one value only:
whoever measures a run counts it as missing.
-/

import Holdout.Decimal.Layout

namespace Holdout

/-- Why a metric is not defined for its inputs. -/
inductive UndefinedReason where
  /-- Graded gains were asked of a reference without scores. -/
  | ungradedReference
  /-- A mean was asked of no items. -/
  | noItems
  /-- A share was asked of an empty catalog. -/
  | emptyCatalog
  /-- A reason that another part of the program words itself. -/
  | other (text : String)
deriving DecidableEq, Repr

/-- The wording of a reason. -/
def UndefinedReason.message : UndefinedReason → String
  | .ungradedReference => "graded gain needs reference scores"
  | .noItems => "no recommended items"
  | .emptyCatalog => "empty catalog"
  | .other text => text

/-- What is wrong with the parameters of a metric. -/
inductive ParameterFault where
  /-- Lists are to be cut before their first item. -/
  | zeroLength (label : String)
  /-- The patience is not strictly between zero and one. -/
  | patience (label : String) (value : Float)
  /-- A fault that another part of the program words itself. -/
  | other (text : String)

/-- The wording of a parameter fault. -/
def ParameterFault.message : ParameterFault → String
  | .zeroLength label => s!"{label}: truncation length must be at least 1"
  | .patience label value =>
    s!"{label}: patience must be in (0, 1), got {Decimal.inMessage value}"
  | .other text => text

/-- Why a metric has no value. -/
inductive MetricError where
  /-- The metric needs a ranking and got an unordered list. -/
  | unordered (metric : String)
  /-- The metric is not defined for these inputs. -/
  | undefined (metric : String) (reason : UndefinedReason)
  /-- The metric itself was set up wrongly. -/
  | invalidParameter (fault : ParameterFault)

/-- The wording of a metric error. -/
def MetricError.message : MetricError → String
  | .unordered metric => s!"metric {metric} requires an ordered list"
  | .undefined metric reason => s!"metric {metric} undefined: {reason.message}"
  | .invalidParameter fault => s!"invalid metric parameter: {fault.message}"

end Holdout
