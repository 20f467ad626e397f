/-
This file defines the rows of the results table. Which of its optional names a row has says what it
is about: a list metric of a query, a global metric, a query that failed, or a configuration that
failed.
-/

import Holdout.Experiment.Key
import Holdout.Metric.Basic

namespace Holdout

/-- One line of the results table. -/
structure Row where
  algorithm : String
  split : String
  query : Option String
  metric : Option String
  value : Option Float
  error : Option String

/-- What a row is about. -/
inductive RowKind where
  | listMetric
  | globalMetric
  | queryFailure
  | configFailure
deriving DecidableEq, Repr

namespace Row

/-- What a row is about. -/
def kind (row : Row) : RowKind :=
  match row.query, row.metric with
  | some _, some _ => .listMetric
  | none, some _ => .globalMetric
  | some _, none => .queryFailure
  | none, none => .configFailure

/-- Whether a row has no value. -/
def isMissing (row : Row) : Bool := row.value.isNone

/-- The row of what a metric said, about a query or about all of them. -/
def ofMetric (key : ConfigKey) (query : Option String) (label : String) (value : MetricValue) :
    Row :=
  match value with
  | .ok number => ⟨key.algorithm, key.split, query, some label, some number, none⟩
  | .error error => ⟨key.algorithm, key.split, query, some label, none, some error.message⟩

/-- The row of a failure, of a query or of the whole configuration. -/
def ofFailure (key : ConfigKey) (query : Option String) (text : String) : Row :=
  ⟨key.algorithm, key.split, query, none, none, some text⟩

end Row

end Holdout
