/-
This file proves how a run accounts for its sink. The sink is offered every row that was sent, each
of them once and those of a configuration in the order in which they were sent, and it is flushed
once, behind the last row. What it answers is counted and has no other effect: a sink that takes the
rows while the run goes on lets it make the same moves, whichever of them it refuses.
-/

import Holdout.Proofs.Report

namespace Holdout

/-! ### The calls on a sink -/

/-- A call on a sink. -/
inductive SinkCall where
  | write (row : Row)
  | flush

def SinkCall.isWrite : SinkCall → Bool
  | .write _ => true
  | .flush => false

/-- A call on a sink, and what came of it. -/
structure Attempt where
  call : SinkCall
  result : SinkResult

namespace Attempt

def accepted (attempt : Attempt) : Bool := attempt.result.isOk

/-- Whether a row was taken. -/
def takesRow (attempt : Attempt) : Bool := attempt.call.isWrite && attempt.accepted

/-- Whether a row was refused. -/
def refusesRow (attempt : Attempt) : Bool := attempt.call.isWrite && !attempt.accepted

/-- Whether the sink could not be flushed. -/
def failsToFlush (attempt : Attempt) : Bool := !attempt.call.isWrite && !attempt.accepted

end Attempt

namespace Sink

variable {State : Type} (sink : Sink State)

/-- The sink with a record of the calls on it. -/
def watched : Sink (List Attempt × State) where
  write := fun row before =>
    let (result, next) := sink.write row before.2
    (result, before.1 ++ [⟨.write row, result⟩], next)
  flush := fun before =>
    let (result, flushed) := sink.flush before.2
    (result, before.1 ++ [⟨.flush, result⟩], flushed)

/-- What comes of offering rows one after the other. -/
def attempts : State → List Row → List Attempt
  | _, [] => []
  | state, row :: rest =>
    ⟨.write row, (sink.write row state).1⟩ :: attempts (sink.write row state).2 rest

theorem map_call_attempts (state : State) (rows : List Row) :
    (sink.attempts state rows).map Attempt.call = rows.map .write := by
  induction rows generalizing state with
  | nil => rfl
  | cons row rest inductionHypothesis =>
    rw [attempts, List.map_cons, List.map_cons, inductionHypothesis]

/-- Only rows are offered. -/
theorem isWrite_of_mem_attempts {state : State} {rows : List Row} {attempt : Attempt}
    (member : attempt ∈ sink.attempts state rows) : attempt.call.isWrite = true := by
  have there := List.mem_map_of_mem (f := Attempt.call) member
  rw [map_call_attempts] at there
  obtain ⟨row, -, same⟩ := List.mem_map.mp there
  rw [← same]
  rfl

theorem offer_append (tally : Tally) (state : State) (rows more : List Row) :
    sink.offer tally state (rows ++ more) =
      sink.offer (sink.offer tally state rows).1 (sink.offer tally state rows).2 more := by
  induction rows generalizing tally state with
  | nil => rfl
  | cons row rest inductionHypothesis => exact inductionHypothesis _ _

/-- Every row is counted, as taken or as refused. -/
theorem tally_offer (tally : Tally) (state : State) (rows : List Row) :
    (sink.offer tally state rows).1 =
      ⟨tally.written + (sink.attempts state rows).countP Attempt.accepted,
        tally.errors + (sink.attempts state rows).countP fun attempt => !attempt.accepted⟩ := by
  induction rows generalizing tally state with
  | nil => rfl
  | cons row rest inductionHypothesis =>
    show (sink.offer (tally.afterWrite (sink.write row state).1) _ rest).1 = _
    rw [inductionHypothesis, attempts, List.countP_cons, List.countP_cons]
    cases (sink.write row state).1 <;>
      simp [Tally.afterWrite, Attempt.accepted, Except.isOk, Except.toBool, Nat.add_assoc,
        Nat.add_comm]

/-- To watch a sink changes nothing. -/
theorem offer_watched (tally : Tally) (before : List Attempt) (state : State) (rows : List Row) :
    sink.watched.offer tally (before, state) rows =
      ((sink.offer tally state rows).1, before ++ sink.attempts state rows,
        (sink.offer tally state rows).2) := by
  induction rows generalizing tally before state with
  | nil => rw [attempts, List.append_nil]; rfl
  | cons row rest inductionHypothesis =>
    show sink.watched.offer _ (before ++ [⟨.write row, (sink.write row state).1⟩], _) rest = _
    rw [inductionHypothesis, List.append_assoc]
    rfl

end Sink

/-! ### Counting the calls -/

/-- What some rows and the calls on a sink that was offered them have to do with the counts. -/
structure Tally.Counts (tally : Tally) (rows : List Row) (calls : List Attempt) : Prop where
  /-- The rows are offered one after the other, whatever becomes of them, and then the sink is
  flushed. -/
  offered : calls.map Attempt.call = rows.map .write ++ [.flush]
  written : tally.written = calls.countP Attempt.takesRow
  errors : tally.errors =
    calls.countP Attempt.refusesRow + if calls.any Attempt.failsToFlush then 1 else 0
  /-- Every row is counted once, and so is the flush if it fails. -/
  total : tally.written + tally.errors =
    rows.length + if calls.any Attempt.failsToFlush then 1 else 0
  /-- There is no error exactly if every row was taken and the sink was flushed. -/
  clean : tally.errors = 0 ↔ ∀ attempt ∈ calls, attempt.accepted = true

namespace Attempt

variable {attempts : List Attempt} (writes : ∀ attempt ∈ attempts, attempt.call.isWrite = true)

/-- The flush behind the last row. -/
def ofFlush (result : SinkResult) : Attempt := ⟨.flush, result⟩

include writes

theorem countP_takesRow (result : SinkResult) :
    (attempts ++ [ofFlush result]).countP takesRow = attempts.countP accepted := by
  have rows : attempts.countP takesRow = attempts.countP accepted :=
    List.countP_congr fun attempt member => by simp [takesRow, writes attempt member]
  rw [List.countP_append, rows]
  rfl

theorem countP_refusesRow (result : SinkResult) :
    (attempts ++ [ofFlush result]).countP refusesRow =
      attempts.countP fun attempt => !attempt.accepted := by
  have rows : attempts.countP refusesRow = attempts.countP fun attempt => !attempt.accepted :=
    List.countP_congr fun attempt member => by simp [refusesRow, writes attempt member]
  rw [List.countP_append, rows]
  rfl

theorem any_failsToFlush (result : SinkResult) :
    (attempts ++ [ofFlush result]).any failsToFlush = !result.isOk := by
  have rows : attempts.any failsToFlush = false :=
    List.any_eq_false.mpr fun attempt member => by simp [failsToFlush, writes attempt member]
  rw [List.any_append, rows, Bool.false_or]
  exact Bool.or_false _

end Attempt

namespace Sink

variable {State : Type} (sink : Sink State)

/-- The calls on a sink in a whole run. -/
def calls (state : State) (rows : List Row) : List Attempt :=
  sink.attempts state rows ++ [.ofFlush (sink.flush (sink.offer {} state rows).2).1]

theorem consume_watched (state : State) (rows : List Row) :
    sink.watched.consume ([], state) rows =
      ((sink.consume state rows).1, sink.calls state rows, (sink.consume state rows).2) := by
  rw [consume, offer_watched, List.nil_append]
  rfl

theorem counts_consume (state : State) (rows : List Row) :
    (sink.consume state rows).1.Counts rows (sink.calls state rows) := by
  have writes (attempt : Attempt) (member : attempt ∈ sink.attempts state rows) :=
    sink.isWrite_of_mem_attempts member
  have both : rows.length = (sink.attempts state rows).countP Attempt.accepted +
      (sink.attempts state rows).countP fun attempt => !attempt.accepted := by
    have lengths := congrArg List.length (sink.map_call_attempts state rows)
    rw [List.length_map, List.length_map] at lengths
    simpa [lengths] using
      List.length_eq_countP_add_countP Attempt.accepted (l := sink.attempts state rows)
  have tally : (sink.consume state rows).1 =
      (sink.offer {} state rows).1.afterFlush (sink.flush (sink.offer {} state rows).2).1 := rfl
  rw [sink.tally_offer] at tally
  rw [tally, calls]
  refine ⟨?_, ?_, ?_, ?_, ?_⟩
  · rw [List.map_append, map_call_attempts]
    rfl
  · rw [Attempt.countP_takesRow writes]
    cases (sink.flush _).1 <;> exact Nat.zero_add _
  · rw [Attempt.countP_refusesRow writes, Attempt.any_failsToFlush writes]
    cases (sink.flush _).1 <;> simp [Tally.afterFlush, Except.isOk, Except.toBool]
  · rw [Attempt.any_failsToFlush writes, both]
    cases (sink.flush _).1 <;>
      simp [Tally.afterFlush, Except.isOk, Except.toBool, Nat.add_assoc]
  · cases (sink.flush _).1 <;>
      simp [Tally.afterFlush, Attempt.ofFlush, Attempt.accepted, Except.isOk, Except.toBool,
        or_imp, forall_and]

end Sink

/-! ### A sink that goes with its run -/

/-- A run whose sink is offered every row as soon as it is handed on. -/
structure Delivery (State : Type) where
  run : Run
  tally : Tally
  state : State

namespace Delivery

variable {State : Type}

/-- A move of the run, and what the sink does with the rows that are new in the log. -/
def step (conditions : Conditions) (sink : Sink State) (delivery : Delivery State)
    (move : RunMove) : Option (Delivery State) :=
  (delivery.run.step conditions move).map fun next =>
    let (tally, state) :=
      sink.offer delivery.tally delivery.state (next.log.drop delivery.run.log.length)
    ⟨next, tally, state⟩

/-- The sink is flushed behind the last row. -/
def close (sink : Sink State) (delivery : Delivery State) : Tally × State :=
  let (result, flushed) := sink.flush delivery.state
  (delivery.tally.afterFlush result, flushed)

end Delivery

namespace Run

variable {conditions : Conditions} {run after : Run}

/-- What has reached the sink stays there. -/
theorem log_stepped {move : RunMove} (stepped : Stepped conditions run move after) :
    run.log <+: after.log := by
  cases stepped with
  | hand position task row present next => exact List.prefix_append _ _
  | _ => exact List.prefix_rfl

theorem log_follow {moves : List RunMove} (follows : run.follow conditions moves = some after) :
    run.log <+: after.log :=
  Steps.holds_follow (run.log <+: ·.log)
    (fun _ stays moves => stays.trans (log_stepped (stepped_of_step moves))) List.prefix_rfl follows

/-- A sink that goes with a run takes no part in it: the same moves are possible, and they lead to
the same run. Meanwhile the sink was offered what has been handed on. -/
theorem follow_delivery {State : Type} (sink : Sink State) (tally : Tally) (state : State)
    (moves : List RunMove) :
    Steps.follow (Delivery.step conditions sink) ⟨run, tally, state⟩ moves =
      (run.follow conditions moves).map fun last =>
        let (tally, state) := sink.offer tally state (last.log.drop run.log.length)
        ⟨last, tally, state⟩ := by
  induction moves generalizing run tally state with
  | nil => simp [Steps.follow, follow, Sink.offer]
  | cons move rest inductionHypothesis =>
    simp only [Steps.follow, follow, Delivery.step, Option.bind_map]
    cases moved : run.step conditions move with
    | none => rfl
    | some next =>
      simp only [Option.bind_some, Function.comp_apply, inductionHypothesis]
      refine Option.map_congr fun last follows => ?_
      obtain ⟨new, log⟩ := log_stepped (stepped_of_step moved)
      obtain ⟨later, lastLog⟩ := log_follow follows
      have rows : last.log.drop run.log.length = new ++ later := by
        rw [← lastLog, ← log, List.append_assoc, List.drop_left]
      rw [rows, sink.offer_append, ← lastLog, ← log, List.drop_left, List.drop_left]

end Run

/-! ### The rows of a run -/

/-- Rows of some configurations, each of one of them, are those of the first configuration together
with those of the second, and so on. -/
theorem Row.perm_flatMap_filter {keys : List ConfigKey} {rows : List Row} (distinct : keys.Nodup)
    (known : ∀ row ∈ rows, ∃ key ∈ keys, row.IsOf key) :
    rows.Perm (keys.flatMap fun key => rows.filter (Row.IsOf key)) := by
  induction keys generalizing rows with
  | nil =>
    have nothing : rows = [] := List.eq_nil_iff_forall_not_mem.mpr fun row member => by
      obtain ⟨key, absent, -⟩ := known row member
      cases absent
    rw [nothing]
    exact List.Perm.refl _
  | cons key rest inductionHypothesis =>
    obtain ⟨fresh, distinct⟩ := List.nodup_cons.mp distinct
    let others := rows.filter fun row => !decide (row.IsOf key)
    have knownOthers (row : Row) (member : row ∈ others) : ∃ key ∈ rest, row.IsOf key := by
      obtain ⟨inside, other⟩ := List.mem_filter.mp member
      obtain ⟨owner, listed, own⟩ := known row inside
      rcases List.mem_cons.mp listed with rfl | later
      · simp [own] at other
      · exact ⟨owner, later, own⟩
    have same : (rest.flatMap fun other => others.filter (Row.IsOf other)) =
        rest.flatMap fun other => rows.filter (Row.IsOf other) := by
      refine List.flatMap_congr fun other member => ?_
      rw [List.filter_filter]
      refine List.filter_congr fun row _ => ?_
      by_cases own : row.IsOf other
      · have different : ¬ row.IsOf key := fun first => fresh (first.unique own ▸ member)
        simp [own, different]
      · simp [own]
    calc rows.Perm (rows.filter (Row.IsOf key) ++ others) :=
          (List.filter_append_perm _ _).symm
      _ |>.Perm (rows.filter (Row.IsOf key) ++
            rest.flatMap fun other => others.filter (Row.IsOf other)) :=
          (inductionHypothesis distinct knownOthers).append_left _
      _ = _ := by rw [same, List.flatMap_cons]

namespace Run

variable {configurations : List Configuration} {run : Run}

/-- What a sink has to be offered by a run that is over: every row that was sent, once, and those of
a configuration in the order in which they were sent. -/
structure Delivers (run : Run) (rows : List Row) : Prop where
  all : rows.Perm (run.tasks.flatMap Task.rows)
  ordered : ∀ task ∈ run.tasks, rows.filter (Row.IsOf task.configuration.key) = task.rows

theorem delivers_log (distinct : (configurations.map Configuration.key).Nodup)
    (same : run.tasks.map Task.configuration = configurations) (logged : run.Logged)
    (isOver : run.isOver = true) : run.Delivers run.log := by
  have ordered (task : Task) (member : task ∈ run.tasks) :
      run.log.filter (Row.IsOf task.configuration.key) = task.rows := by
    obtain ⟨position, present⟩ := List.mem_iff_getElem?.mp member
    exact logOf_of_isOver logged isOver present
  refine ⟨?_, ordered⟩
  have known (row : Row) (member : row ∈ run.log) :
      ∃ key ∈ configurations.map Configuration.key, row.IsOf key := by
    obtain ⟨configuration, listed, own⟩ := logged.known row member
    exact ⟨_, List.mem_map_of_mem (same ▸ listed), own⟩
  have perm : run.log.Perm _ := Row.perm_flatMap_filter distinct known
  rw [← same, List.map_map, List.flatMap_map] at perm
  exact perm.trans (List.flatMap_congr ordered ▸ List.Perm.refl _)

end Run

/-! ### The report of a run -/

/-- What the report of a run says of the calls on its sink. -/
structure RunReport.Accounts (report : RunReport) (run : Run) (calls : List Attempt) : Prop where
  offered : ∃ rows, run.Delivers rows ∧
    (⟨report.rowsWritten, report.sinkErrors⟩ : Tally).Counts rows calls
  total : report.rowsWritten + report.sinkErrors = (run.tasks.flatMap Task.rows).length +
    if calls.any Attempt.failsToFlush then 1 else 0
  complete : report.isComplete = true ↔ report.cancelled = false ∧
    (∀ attempt ∈ calls, attempt.accepted = true) ∧
    ∀ config ∈ report.configs, config.state = .aggregated

namespace Evaluator

variable {State : Type} {evaluator : Evaluator} {plan : Plan} {begun run : Run}
  {moves : List RunMove}

theorem accounts_finish (begins : evaluator.begin plan = .ok begun)
    (follows : begun.follow (evaluator.conditions plan) moves = some run)
    (isOver : run.isOver = true) (sink : Sink State) (state : State) (stamp : RunStamp) :
    (evaluator.finish run sink state stamp).report.Accounts run (sink.calls state run.log) := by
  have delivers := Run.delivers_log (valid_of_begin begins).distinct_keys
    (Run.kept_follow (kept_of_begin begins) follows).same (logged_of_begin begins follows) isOver
  have counts : (sink.consume state run.log).1.Counts run.log (sink.calls state run.log) :=
    sink.counts_consume state run.log
  refine ⟨⟨run.log, delivers, counts⟩, ?_, ?_⟩
  · rw [← delivers.all.length_eq]
    exact counts.total
  · rw [← counts.clean]
    simp [RunReport.isComplete, finish, and_assoc]

/-- A sink that goes with a run that is over has done what the report says. -/
theorem delivered_finish (begins : evaluator.begin plan = .ok begun)
    (follows : begun.follow (evaluator.conditions plan) moves = some run) (sink : Sink State)
    (state : State) : ∃ delivery : Delivery State,
      Steps.follow (Delivery.step (evaluator.conditions plan) sink) ⟨begun, {}, state⟩ moves =
        some delivery ∧ delivery.run = run ∧ delivery.close sink = sink.consume state run.log := by
  have nothing : begun.log = [] := by
    rw [eq_start_of_begin begins]
    rfl
  refine ⟨⟨run, (sink.offer {} state run.log).1, (sink.offer {} state run.log).2⟩, ?_, rfl, rfl⟩
  rw [Run.follow_delivery, follows, nothing]
  rfl

/-- Whatever happens in a run of a valid plan and whatever its sink answers: once the run is over,
every row that was sent has been offered to the sink once, those of a configuration in their order,
and then the sink was flushed once; the report counts what the sink took and what it failed to do;
and the run is the one that it would have been with any other sink. -/
theorem sink_accounted (evaluator : Evaluator) (plan : Plan) (begun run : Run)
    (moves : List RunMove) (begins : evaluator.begin plan = .ok begun)
    (follows : begun.follow (evaluator.conditions plan) moves = some run)
    (isOver : run.isOver = true) (sink : Sink State) (state : State) (stamp : RunStamp) :
    let finished := evaluator.finish run sink state stamp
    let watched := evaluator.finish run sink.watched ([], state) stamp
    (watched.report = finished.report ∧ watched.sink.2 = finished.sink) ∧
      finished.report.Accounts run watched.sink.1 ∧
      (finished.report.configs = run.configs ∧ finished.report.cancelled = run.calls.cancelled) ∧
      ∃ delivery : Delivery State,
        Steps.follow (Delivery.step (evaluator.conditions plan) sink) ⟨begun, {}, state⟩ moves =
            some delivery ∧ delivery.run = run ∧
          delivery.close sink =
            (⟨finished.report.rowsWritten, finished.report.sinkErrors⟩, finished.sink) := by
  have seen := sink.consume_watched state run.log
  refine ⟨⟨?_, ?_⟩, ?_, ⟨rfl, rfl⟩, delivered_finish begins follows sink state⟩
  · simp only [finish, seen]
  · simp only [finish, seen]
  · have accounts := accounts_finish begins follows isOver sink state stamp
    simp only [finish, seen] at accounts ⊢
    exact accounts

/-- A sink that has no room for the first row and cannot be flushed. -/
def fullSink : Sink Nat where
  write := fun _ taken => (if taken = 0 then .error (.transfer "full") else .ok (), taken + 1)
  flush := fun taken => (.error (.transfer "full"), taken)

/-- Two rows, of which the sink takes the second. -/
theorem sink_accounted_full :
    let plan := Plan.ofAlgorithms [.answering "a" (.ok Plan.answer)]
      [.list ⟨"size", fun _ _ => .ok (.ok 1.0)⟩, .global ⟨"lists", fun _ _ => .ok (.ok 1.0)⟩]
    let report := (fresh.finish (fresh.inTurn plan) fullSink 0 default).report
    let calls := (fresh.finish (fresh.inTurn plan) fullSink.watched ([], 0) default).sink.1
    calls.map (fun attempt => (attempt.call.isWrite, attempt.accepted)) =
        [(true, false), (true, true), (false, false)] ∧
      report.rowsWritten = 1 ∧ report.sinkErrors = 2 ∧
      report.Accounts (fresh.inTurn plan) calls := by
  intro plan report calls
  have isOver : (fresh.inTurn plan).isOver = true := by decide +kernel
  obtain ⟨moves, follows⟩ := follow_inTurn fresh plan rfl
  obtain ⟨-, accounts, -⟩ :=
    sink_accounted fresh plan _ _ moves rfl follows isOver fullSink 0 default
  exact ⟨by decide +kernel, by decide +kernel, by decide +kernel, accounts⟩

end Evaluator

end Holdout
