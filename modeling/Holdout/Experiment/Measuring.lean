/-
This file measures the outcomes of a configuration as they arrive, chunk by chunk. The lists of a
chunk are measured as a whole before any of its rows goes out, so a metric that crashes keeps back
the rows of its chunk and no earlier ones. A list gives a row for every list metric, a failure gives
one row. If rows are to come in the order of the queries, the outcomes pass a reordering first, and
what it still holds at the end is measured last.
-/

import Holdout.Analysis
import Holdout.Experiment.Reorder
import Holdout.Row
import Holdout.Split

namespace Holdout

/-- What outcomes of a configuration are measured with. -/
structure Measuring where
  key : ConfigKey
  metrics : List Metric
  references : Table ItemList
  /-- Whether rows come in the order of the queries. -/
  ordered : Bool

/-- What was gathered from outcomes: the rows that went out, the values of the list metrics, the
lists with their references that are kept for the global metrics, and how many queries were scored
and how many failed. -/
structure Gathered where
  rows : List Row := []
  lists : List Measured := []
  pairs : List (ItemList × ItemList) := []
  scored : Nat := 0
  failed : Nat := 0

namespace Gathered

/-- What was gathered from two parts one after the other. -/
def append (first second : Gathered) : Gathered where
  rows := first.rows ++ second.rows
  lists := first.lists ++ second.lists
  pairs := first.pairs ++ second.pairs
  scored := first.scored + second.scored
  failed := first.failed + second.failed

instance : Append Gathered := ⟨append⟩

/-- Everything that the metrics say in the end: the list metrics have spoken already, the global
ones look at the lists that were kept. -/
def analysis (metrics : List Metric) (gathered : Gathered) : Guarded Analysis := do
  let global ← Analysis.measureGlobal metrics (gathered.pairs.map Prod.fst)
    (gathered.pairs.map Prod.snd)
  return ⟨gathered.lists, global⟩

end Gathered

namespace Measuring

/-- How many outcomes are measured at once at most. -/
def chunkSize : Nat := 64

/-- The reference of a query. -/
def referenceOf (measuring : Measuring) (query : QueryId) : ItemList :=
  Analysis.referenceOf measuring.references query

/-- The list of an outcome with its query and its reference, if there is one. -/
def pairOf? (measuring : Measuring) (outcome : Outcome) :
    Option (QueryId × ItemList × ItemList) :=
  match outcome.result with
  | .ok list => some (outcome.query, list, measuring.referenceOf outcome.query)
  | .error _ => none

/-- What a list gives that was measured. -/
def ofMeasured (measuring : Measuring) (query : QueryId) (list : ItemList) (measured : Measured) :
    Gathered where
  rows := measured.values.map fun value =>
    Row.ofMetric measuring.key (some query) value.1 value.2
  lists := [measured]
  pairs :=
    if Metric.hasGlobal measuring.metrics then [(list, measuring.referenceOf query)] else []
  scored := 1

/-- What a failure gives. -/
def ofFailed (measuring : Measuring) (query : QueryId) (error : QueryError) : Gathered where
  rows := [Row.ofFailure measuring.key (some query) error.message]
  failed := 1

/-- What a chunk gives: every list takes the next of the measured values. -/
def emit (measuring : Measuring) : List Measured → List Outcome → Gathered
  | _, [] => {}
  | values, outcome :: rest =>
    match outcome.result with
    | .error error => measuring.ofFailed outcome.query error ++ measuring.emit values rest
    | .ok list =>
      match values with
      | [] => { scored := 1 } ++ measuring.emit [] rest
      | value :: later =>
        measuring.ofMeasured outcome.query list value ++ measuring.emit later rest

/-- Measures the lists of a chunk, and then goes through its outcomes. -/
def measureChunk (measuring : Measuring) (chunk : List Outcome) : Guarded Gathered := do
  let values ← Analysis.measurePairs measuring.metrics (chunk.filterMap measuring.pairOf?)
  return measuring.emit values chunk

/-- Takes a chunk in: what is held back afterwards, and what was gathered. -/
def absorb (measuring : Measuring) (reorder : Reorder) (chunk : List Outcome) :
    Guarded (Reorder × Gathered) :=
  if measuring.ordered then do
    let part ← measuring.measureChunk (reorder.release chunk).1
    return ((reorder.release chunk).2, part)
  else do
    let part ← measuring.measureChunk chunk
    return (reorder, part)

/-- Measures what is still held back. -/
def finish (measuring : Measuring) (reorder : Reorder) : Guarded Gathered :=
  measuring.measureChunk reorder.held

/-- Takes chunks in, one after the other, and then measures what is held back. -/
def drainFrom (measuring : Measuring) (reorder : Reorder) : List (List Outcome) → Guarded Gathered
  | [] => measuring.finish reorder
  | chunk :: rest => do
    let (reorder, part) ← measuring.absorb reorder chunk
    let later ← measuring.drainFrom reorder rest
    return part ++ later

/-- What all outcomes of a configuration give, if they arrive in these chunks. -/
def drain (measuring : Measuring) (chunks : List (List Outcome)) : Guarded Gathered :=
  measuring.drainFrom .start chunks

end Measuring

end Holdout
