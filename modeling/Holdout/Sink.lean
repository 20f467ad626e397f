/-
This file defines sinks, which take the rows of a run one after the other. A sink can refuse a row
or fail to be flushed; the run goes on and only counts it. Three sinks are given: one keeps the
rows, and two write a text, as comma-separated records under a header or as one JSON document a
line.
-/

import Holdout.Codec.Row

namespace Holdout

/-- Why a sink did not do what it was asked for. -/
inductive SinkError where
  /-- Reading or writing failed. -/
  | transfer (reason : String)
  /-- A record could not be written. -/
  | record (reason : String)
  /-- A JSON document could not be written. -/
  | document (reason : String)
deriving DecidableEq, Repr

/-- The wording of a sink error. -/
def SinkError.message : SinkError → String
  | .transfer reason => s!"sink I/O failed: {reason}"
  | .record reason => s!"CSV write failed: {reason}"
  | .document reason => s!"JSON encode failed: {reason}"

/-- What an action of a sink gives. -/
abbrev SinkResult := Except SinkError Unit

/-- A taker of rows with a state of its own. -/
structure Sink (State : Type) where
  write : Row → State → SinkResult × State
  flush : State → SinkResult × State

/-- How many rows a sink took, and how often it failed. -/
structure Tally where
  written : Nat := 0
  errors : Nat := 0
deriving DecidableEq, Repr

namespace Tally

/-- Counts a row. -/
def afterWrite (tally : Tally) : SinkResult → Tally
  | .ok _ => { tally with written := tally.written + 1 }
  | .error _ => { tally with errors := tally.errors + 1 }

/-- Counts the flush, which only shows if it fails. -/
def afterFlush (tally : Tally) : SinkResult → Tally
  | .ok _ => tally
  | .error _ => { tally with errors := tally.errors + 1 }

end Tally

namespace Sink

variable {State : Type}

/-- Offers rows one after the other, whatever becomes of those before. -/
def offer (sink : Sink State) : Tally → State → List Row → Tally × State
  | tally, state, [] => (tally, state)
  | tally, state, row :: rest =>
    let (result, next) := sink.write row state
    sink.offer (tally.afterWrite result) next rest

/-- Offers all rows of a run and flushes the sink. -/
def consume (sink : Sink State) (state : State) (rows : List Row) : Tally × State :=
  let (tally, last) := sink.offer {} state rows
  let (result, flushed) := sink.flush last
  (tally.afterFlush result, flushed)

/-- The sink that keeps the rows. -/
def memory : Sink (List Row) where
  write := fun row rows => (.ok (), rows ++ [row])
  flush := fun rows => (.ok (), rows)

/-- The sink that writes records to a text. The first one comes after the header. -/
def csv : Sink (List Char) where
  write := fun row text =>
    let start := if text.isEmpty then Csv.recordText Row.header else text
    (.ok (), start ++ Csv.recordText row.record)
  flush := fun text => (.ok (), text)

/-- The sink that writes JSON documents to a text, one a line. -/
def jsonLines : Sink (List Char) where
  write := fun row text => (.ok (), text ++ row.toJson.text ++ ['\n'])
  flush := fun text => (.ok (), text)

end Sink

/-- A format of result files. -/
inductive FileFormat where
  | csv
  | jsonLines
deriving DecidableEq, Repr

namespace FileFormat

/-- The sink that writes a format. -/
def sink : FileFormat → Sink (List Char)
  | .csv => Sink.csv
  | .jsonLines => Sink.jsonLines

/-- The error when a file of a format cannot be created. -/
def notCreated (reason : String) : FileFormat → SinkError
  | .csv => .record reason
  | .jsonLines => .transfer reason

/-- The sink of a file, if that could be created. -/
def create (format : FileFormat) (opened : Except String Unit) :
    Except SinkError (Sink (List Char)) :=
  match opened with
  | .ok _ => .ok format.sink
  | .error reason => .error (format.notCreated reason)

end FileFormat

end Holdout
