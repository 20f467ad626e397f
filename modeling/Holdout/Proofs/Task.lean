/-
This file proves what a configuration has behind it at every phase of its way: what was loaded,
built and trained, which outcomes its batch has sent, what was gathered from them, and which rows
went out. From that it lists the ways in which a configuration can end, each with its report and all
its rows.
-/

import Holdout.Experiment.Task
import Holdout.Proofs.Batch.Accounting
import Holdout.Proofs.Measuring

namespace Holdout

namespace Configuration

/-- Why a configuration can fail before its queries are scored. -/
inductive FailsEarly (configuration : Configuration) : ConfigFailure → Prop where
  | notStarted : FailsEarly configuration ⟨.loading, .cancelled⟩
  | loadingCrashed (crash : Crash) (result : configuration.source.load.result = .error crash) :
      FailsEarly configuration ⟨.loading, .crashed crash⟩
  | notLoaded (error : DataError) (result : configuration.source.load.result = .ok (.error error)) :
      FailsEarly configuration ⟨.loading, .data error⟩
  | notBuilt (crash : Crash) (result : configuration.algorithm.build = .error crash) :
      FailsEarly configuration ⟨.scoring, .crashed crash⟩
  | noSlot (scorer : Scorer) (built : configuration.algorithm.build = .ok scorer)
      (needed : scorer.requiresTraining = true) : FailsEarly configuration ⟨.training, .cancelled⟩
  | trainingCrashed (split : Split) (scorer : Scorer) (crash : Crash)
      (loaded : configuration.source.load.result = .ok (.ok split))
      (built : configuration.algorithm.build = .ok scorer)
      (needed : scorer.requiresTraining = true)
      (result : (scorer.train split.train).result = .error crash) :
      FailsEarly configuration ⟨.training, .crashed crash⟩
  | notTrained (split : Split) (scorer : Scorer) (error : ScorerError)
      (loaded : configuration.source.load.result = .ok (.ok split))
      (built : configuration.algorithm.build = .ok scorer)
      (needed : scorer.requiresTraining = true)
      (result : (scorer.train split.train).result = .ok (.error error)) :
      FailsEarly configuration ⟨.training, .scorer error⟩

/-- The split of a configuration and the scoring of its queries, if it gets that far. -/
inductive Ready (configuration : Configuration) : Split → Scoring → Prop where
  | untrained (split : Split) (scorer : Scorer)
      (loaded : configuration.source.load.result = .ok (.ok split))
      (built : configuration.algorithm.build = .ok scorer)
      (ready : scorer.requiresTraining = false) : Ready configuration split scorer.score
  | trained (split : Split) (scorer : Scorer) (score : Scoring)
      (loaded : configuration.source.load.result = .ok (.ok split))
      (built : configuration.algorithm.build = .ok scorer)
      (needed : scorer.requiresTraining = true)
      (result : (scorer.train split.train).result = .ok (.ok score)) :
      Ready configuration split score

theorem Ready.loaded {configuration : Configuration} {split : Split} {score : Scoring}
    (ready : configuration.Ready split score) :
    configuration.source.load.result = .ok (.ok split) := by
  cases ready with
  | untrained scorer loaded => exact loaded
  | trained scorer _ loaded => exact loaded

end Configuration

namespace Task

variable {conditions : Conditions} {position : Nat} {calls : Calls Slot} {task : Task}

/-! ### What a move can do -/

/-- The names that the queries of a configuration have in a run. -/
abbrev slots (position index : Nat) : Slot := (position, some index)

/-- The moves of a configuration, with what each of them needs and changes. -/
inductive Moved (conditions : Conditions) (position : Nat) (calls : Calls Slot) (task : Task) :
    TaskMove → Calls Slot → Task → Prop where
  | begins (phase : task.phase = .pending) (signal : calls.cancelled = false) :
      Moved conditions position calls task .start calls { task with phase := .loading }
  | refuses (phase : task.phase = .pending) (signal : calls.cancelled = true) :
      Moved conditions position calls task .start calls (task.fail ⟨.loading, .cancelled⟩)
  | loadingCrashes (crash : Crash) (phase : task.phase = .loading)
      (result : task.configuration.source.load.result = .error crash) :
      Moved conditions position calls task .load
        (calls.cancelIf task.configuration.source.load.cancels)
        (task.fail ⟨.loading, .crashed crash⟩)
  | loadingFails (error : DataError) (phase : task.phase = .loading)
      (result : task.configuration.source.load.result = .ok (.error error)) :
      Moved conditions position calls task .load
        (calls.cancelIf task.configuration.source.load.cancels)
        (task.fail ⟨.loading, .data error⟩)
  | loads (split : Split) (phase : task.phase = .loading)
      (result : task.configuration.source.load.result = .ok (.ok split)) :
      Moved conditions position calls task .load
        (calls.cancelIf task.configuration.source.load.cancels) (task.beginTraining split)
  | trains (split : Split) (scorer : Scorer) (asking : Bool) (later : Calls Slot)
      (phase : task.phase = .training split scorer asking)
      (asks : calls.ask (position, none) (scorer.train split.train).cancels = (.granted, later)) :
      Moved conditions position calls task .ask later { task with phase := .fitting split scorer }
  | trainingRefused (split : Split) (scorer : Scorer) (asking : Bool) (later : Calls Slot)
      (phase : task.phase = .training split scorer asking)
      (asks : calls.ask (position, none) (scorer.train split.train).cancels =
        (.cancelled, later)) :
      Moved conditions position calls task .ask later (task.fail ⟨.training, .cancelled⟩)
  | waits (split : Split) (scorer : Scorer) (later : Calls Slot)
      (phase : task.phase = .training split scorer false)
      (asks : calls.ask (position, none) (scorer.train split.train).cancels = (.waiting, later)) :
      Moved conditions position calls task .ask later
        { task with phase := .training split scorer true }
  | trainingCrashes (split : Split) (scorer : Scorer) (crash : Crash)
      (phase : task.phase = .fitting split scorer) (returned : (position, none) ∉ calls.names)
      (result : (scorer.train split.train).result = .error crash) :
      Moved conditions position calls task .fit calls (task.fail ⟨.training, .crashed crash⟩)
  | trainingFails (split : Split) (scorer : Scorer) (error : ScorerError)
      (phase : task.phase = .fitting split scorer) (returned : (position, none) ∉ calls.names)
      (result : (scorer.train split.train).result = .ok (.error error)) :
      Moved conditions position calls task .fit calls (task.fail ⟨.training, .scorer error⟩)
  | fits (split : Split) (scorer : Scorer) (score : Scoring)
      (phase : task.phase = .fitting split scorer) (returned : (position, none) ∉ calls.names)
      (result : (scorer.train split.train).result = .ok (.ok score)) :
      Moved conditions position calls task .fit calls (task.beginScoring split score)
  | batches (split : Split) (score : Scoring) (progress : Batch.Progress)
      (queue later : List Outcome) (measurer : Measurer) (move : Batch.Move)
      (advance : Batch.Advance Slot)
      (phase : task.phase = .scoring split score progress queue measurer)
      (advances : (conditions.batch split).advance score split.queries (slots position) calls
        progress move = some advance)
      (sends : enqueue conditions.capacity measurer queue advance.sent = some later) :
      Moved conditions position calls task (.batch move) advance.calls
        { task with phase := .scoring split score advance.progress later measurer }
  | measures (split : Split) (score : Scoring) (progress : Batch.Progress) (queue : List Outcome)
      (reorder after : Reorder) (gathered part : Gathered) (count : Nat)
      (phase : task.phase = .scoring split score progress queue (.working reorder gathered))
      (some : 0 < count) (few : count ≤ Measuring.chunkSize) (enough : count ≤ queue.length)
      (absorbs : (conditions.measuring task.configuration.key split).absorb reorder
        (queue.take count) = .ok (after, part)) :
      Moved conditions position calls task (.measure count) calls
        { task with
          phase := .scoring split score progress (queue.drop count)
            (.working after (gathered ++ part))
          rows := task.rows ++ part.rows }
  | measuringCrashes (split : Split) (score : Scoring) (progress : Batch.Progress)
      (queue : List Outcome) (reorder : Reorder) (gathered : Gathered) (count : Nat) (crash : Crash)
      (phase : task.phase = .scoring split score progress queue (.working reorder gathered))
      (some : 0 < count) (few : count ≤ Measuring.chunkSize) (enough : count ≤ queue.length)
      (absorbs : (conditions.measuring task.configuration.key split).absorb reorder
        (queue.take count) = .error crash) :
      Moved conditions position calls task (.measure count) calls
        { task with phase := .scoring split score progress [] (.crashed crash) }
  | flushes (split : Split) (score : Scoring) (progress : Batch.Progress) (reorder : Reorder)
      (gathered part : Gathered)
      (phase : task.phase = .scoring split score progress [] (.working reorder gathered))
      (done : progress.isDone split.queries = true)
      (finishes : (conditions.measuring task.configuration.key split).finish reorder = .ok part) :
      Moved conditions position calls task .flush calls
        { task with
          phase := .scoring split score progress [] (.finished (gathered ++ part))
          rows := task.rows ++ part.rows }
  | flushingCrashes (split : Split) (score : Scoring) (progress : Batch.Progress)
      (reorder : Reorder) (gathered : Gathered) (crash : Crash)
      (phase : task.phase = .scoring split score progress [] (.working reorder gathered))
      (done : progress.isDone split.queries = true)
      (finishes : (conditions.measuring task.configuration.key split).finish reorder =
        .error crash) :
      Moved conditions position calls task .flush calls
        { task with phase := .scoring split score progress [] (.crashed crash) }
  | concludesCrash (split : Split) (score : Scoring) (progress : Batch.Progress)
      (queue : List Outcome) (crash : Crash)
      (phase : task.phase = .scoring split score progress queue (.crashed crash))
      (done : progress.isDone split.queries = true) :
      Moved conditions position calls task .conclude calls
        (task.fail ⟨.measuring, .crashed crash⟩)
  | concludesCancelled (split : Split) (score : Scoring) (progress : Batch.Progress)
      (queue : List Outcome) (gathered : Gathered)
      (phase : task.phase = .scoring split score progress queue (.finished gathered))
      (done : progress.isDone split.queries = true) (signal : calls.cancelled = true) :
      Moved conditions position calls task .conclude calls
        ({ task with
          report := { task.report with
            scored := gathered.scored, failed := gathered.failed } }.fail ⟨.scoring, .cancelled⟩)
  | concludes (split : Split) (score : Scoring) (progress : Batch.Progress)
      (queue : List Outcome) (gathered : Gathered)
      (phase : task.phase = .scoring split score progress queue (.finished gathered))
      (done : progress.isDone split.queries = true) (signal : calls.cancelled = false) :
      Moved conditions position calls task .conclude calls
        ({ task with
          phase := .scored gathered
          report := { task.report with
            scored := gathered.scored, failed := gathered.failed } }.setState .scored)
  | aggregatingCrashes (gathered : Gathered) (crash : Crash) (takes : Duration)
      (phase : task.phase = .scored gathered)
      (measures : gathered.analysis conditions.metrics = .error crash) :
      Moved conditions position calls task (.aggregate takes) calls
        (task.fail ⟨.measuring, .crashed crash⟩)
  | aggregates (gathered : Gathered) (analysis : Analysis) (takes : Duration)
      (phase : task.phase = .scored gathered)
      (measures : gathered.analysis conditions.metrics = .ok analysis) :
      Moved conditions position calls task (.aggregate takes) calls
        (setState { task with
          phase := .ended
          report := { task.report with duration := takes, summary := analysis.summary }
          rows := task.rows ++
            analysis.global.map fun value => Row.ofMetric task.report.key none value.1 value.2 }
          .aggregated)

theorem moved_of_ask {after : Calls Slot × Task} (moves : task.ask position calls = some after) :
    Moved conditions position calls task .ask after.1 after.2 := by
  unfold ask at moves
  split at moves
  swap
  · cases moves
  rename_i split scorer asking phase
  split at moves
  · rename_i later asks
    cases moves
    exact .trains split scorer asking later phase asks
  · rename_i later asks
    cases moves
    exact .trainingRefused split scorer asking later phase asks
  · rename_i answer later notGranted notRefused asks
    split at moves
    · cases moves
    rename_i first
    obtain rfl : asking = false := Bool.eq_false_iff.mpr first
    cases moves
    cases Calls.asked_of_ask asks with
    | granted => exact (notGranted rfl).elim
    | refused => exact (notRefused rfl).elim
    | waiting budget => exact .waits split scorer _ phase asks

theorem moved_of_fit {after : Calls Slot × Task} (moves : task.fit position calls = some after) :
    Moved conditions position calls task .fit after.1 after.2 := by
  unfold fit at moves
  split at moves
  swap
  · cases moves
  rename_i split scorer phase
  split at moves
  · cases moves
  rename_i returned
  cases moves
  split
  · rename_i crash result
    exact .trainingCrashes split scorer crash phase returned result
  · rename_i error result
    exact .trainingFails split scorer error phase returned result
  · rename_i score result
    exact .fits split scorer score phase returned result

theorem moved_of_measure {count : Nat} {after : Calls Slot × Task}
    (moves : task.measure conditions calls count = some after) :
    Moved conditions position calls task (.measure count) after.1 after.2 := by
  unfold measure at moves
  split at moves
  swap
  · cases moves
  rename_i split score progress queue reorder gathered phase
  split at moves
  swap
  · cases moves
  rename_i possible
  cases moves
  split
  · rename_i later part absorbs
    exact .measures split score progress queue reorder later gathered part count phase possible.1
      possible.2.1 possible.2.2 absorbs
  · rename_i crash absorbs
    exact .measuringCrashes split score progress queue reorder gathered count crash phase
      possible.1 possible.2.1 possible.2.2 absorbs

theorem moved_of_flush {after : Calls Slot × Task}
    (moves : task.flush conditions calls = some after) :
    Moved conditions position calls task .flush after.1 after.2 := by
  unfold flush at moves
  split at moves
  swap
  · cases moves
  rename_i split score progress reorder gathered phase
  split at moves
  swap
  · cases moves
  rename_i done
  cases moves
  split
  · rename_i part finishes
    exact .flushes split score progress reorder gathered part phase done finishes
  · rename_i crash finishes
    exact .flushingCrashes split score progress reorder gathered crash phase done finishes

theorem moved_of_conclude {after : Calls Slot × Task} (moves : task.conclude calls = some after) :
    Moved conditions position calls task .conclude after.1 after.2 := by
  unfold conclude at moves
  split at moves
  swap
  · cases moves
  rename_i split score progress queue measurer phase
  split at moves
  swap
  · cases moves
  rename_i done
  cases measurer with
  | working reorder gathered => cases moves
  | crashed crash =>
    cases moves
    exact .concludesCrash split score progress queue crash phase done
  | finished gathered =>
    cases moves
    cases signal : calls.cancelled with
    | true => exact .concludesCancelled split score progress queue gathered phase done signal
    | false => exact .concludes split score progress queue gathered phase done signal

/-- Every move is one of those. -/
theorem moved_of_move {move : TaskMove} {after : Calls Slot × Task}
    (moves : task.move conditions position calls move = some after) :
    Moved conditions position calls task move after.1 after.2 := by
  cases move with
  | start =>
    simp only [Task.move, begin] at moves
    split at moves
    swap
    · cases moves
    rename_i phase
    cases moves
    cases signal : calls.cancelled with
    | true => exact .refuses phase signal
    | false => exact .begins phase signal
  | load =>
    simp only [Task.move, load] at moves
    split at moves
    swap
    · cases moves
    rename_i phase
    cases moves
    split
    · rename_i crash result
      exact .loadingCrashes crash phase result
    · rename_i error result
      exact .loadingFails error phase result
    · rename_i split result
      exact .loads split phase result
  | ask => exact moved_of_ask moves
  | fit => exact moved_of_fit moves
  | batch move =>
    simp only [Task.move, advance] at moves
    split at moves
    swap
    · cases moves
    rename_i split score progress queue measurer phase
    split at moves
    · cases moves
    rename_i advance advances
    obtain ⟨later, sends, rfl⟩ := Option.map_eq_some_iff.mp moves
    exact .batches split score progress queue later measurer move advance phase advances sends
  | measure count => exact moved_of_measure moves
  | flush => exact moved_of_flush moves
  | conclude => exact moved_of_conclude moves
  | aggregate takes =>
    simp only [Task.move, aggregate] at moves
    split at moves
    swap
    · cases moves
    rename_i gathered phase
    cases moves
    split
    · rename_i crash measures
      exact .aggregatingCrashes gathered crash takes phase measures
    · rename_i analysis measures
      exact .aggregates gathered analysis takes phase measures

/-! ### The way of a configuration -/

/-- What was measured of a configuration all of whose queries have an outcome. -/
structure Measured (conditions : Conditions) (configuration : Configuration) (split : Split)
    (score : Scoring) (progress : Batch.Progress) (outcomes : List Outcome) (gathered : Gathered) :
    Prop where
  ready : configuration.Ready split score
  accounted : Batch.Accounted (conditions.batch split) score split.queries progress outcomes
  done : progress.isDone split.queries = true
  drained : ∃ chunks : List (List Outcome), chunks.flatten = outcomes ∧
    (conditions.measuring configuration.key split).drain chunks = .ok gathered

/-- The ways in which a configuration can end, with its report and its rows. -/
inductive Ended (conditions : Conditions) (configuration : Configuration) :
    ConfigReport → List Row → Prop where
  /-- It fails before its queries are scored. -/
  | early (failure : ConfigFailure) (why : configuration.FailsEarly failure) :
      Ended conditions configuration
        { ConfigReport.fresh configuration.key with state := .ofFailure failure }
        [Row.ofFailure configuration.key none failure.message]
  /-- A list metric crashes. -/
  | measuringCrashed (split : Split) (score : Scoring) (progress : Batch.Progress)
      (sent : List Outcome) (chunks : List (List Outcome)) (crash : Crash) (rows : List Row)
      (ready : configuration.Ready split score)
      (accounted : Batch.Accounted (conditions.batch split) score split.queries progress sent)
      (done : progress.isDone split.queries = true) (arrived : chunks.flatten <+: sent)
      (crashes : (conditions.measuring configuration.key split).drain chunks = .error crash)
      (aboutQueries : ∀ row ∈ rows, row.query.isSome = true) :
      Ended conditions configuration
        { ConfigReport.fresh configuration.key with
          state := .ofFailure ⟨.measuring, .crashed crash⟩, queries := split.queries.length }
        (rows ++ [Row.ofFailure configuration.key none
          (ConfigFailure.message ⟨.measuring, .crashed crash⟩)])
  /-- The run is cancelled while its queries are scored. -/
  | cancelled (split : Split) (score : Scoring) (progress : Batch.Progress)
      (outcomes : List Outcome) (gathered : Gathered)
      (measured : Measured conditions configuration split score progress outcomes gathered) :
      Ended conditions configuration
        { ConfigReport.fresh configuration.key with
          state := .ofFailure ⟨.scoring, .cancelled⟩, queries := split.queries.length,
          scored := gathered.scored, failed := gathered.failed }
        (gathered.rows ++ [Row.ofFailure configuration.key none
          (ConfigFailure.message ⟨.scoring, .cancelled⟩)])
  /-- A global metric crashes. -/
  | aggregatingCrashed (split : Split) (score : Scoring) (progress : Batch.Progress)
      (outcomes : List Outcome) (gathered : Gathered) (crash : Crash)
      (measured : Measured conditions configuration split score progress outcomes gathered)
      (everyone : progress.spawned.length = progress.next)
      (measures : gathered.analysis conditions.metrics = .error crash) :
      Ended conditions configuration
        { ConfigReport.fresh configuration.key with
          state := .ofFailure ⟨.measuring, .crashed crash⟩, queries := split.queries.length,
          scored := gathered.scored, failed := gathered.failed }
        (gathered.rows ++ [Row.ofFailure configuration.key none
          (ConfigFailure.message ⟨.measuring, .crashed crash⟩)])
  /-- Everything goes well. -/
  | aggregated (split : Split) (score : Scoring) (progress : Batch.Progress)
      (outcomes : List Outcome) (gathered : Gathered) (analysis : Analysis) (takes : Duration)
      (measured : Measured conditions configuration split score progress outcomes gathered)
      (everyone : progress.spawned.length = progress.next)
      (measures : gathered.analysis conditions.metrics = .ok analysis) :
      Ended conditions configuration
        { ConfigReport.fresh configuration.key with
          state := .aggregated, queries := split.queries.length,
          scored := gathered.scored, failed := gathered.failed, duration := takes,
          summary := analysis.summary }
        (gathered.rows ++ analysis.global.map fun value =>
          Row.ofMetric configuration.key none value.1 value.2)

/-- How the rows and what is measured come from the outcomes that were sent and are not in the queue
any more. -/
inductive Taken (measuring : Measuring) (sent queue : List Outcome) (done : Bool) :
    Measurer → List Row → Prop where
  | working (chunks : List (List Outcome)) (reorder : Reorder) (gathered : Gathered)
      (whole : sent = chunks.flatten ++ queue)
      (absorbed : measuring.Absorbed chunks reorder gathered) :
      Taken measuring sent queue done (.working reorder gathered) gathered.rows
  | finished (chunks : List (List Outcome)) (gathered : Gathered) (whole : sent = chunks.flatten)
      (all : done = true) (drains : measuring.drain chunks = .ok gathered) :
      Taken measuring sent queue done (.finished gathered) gathered.rows
  | crashed (chunks : List (List Outcome)) (crash : Crash) (rows : List Row)
      (arrived : chunks.flatten <+: sent) (crashes : measuring.drain chunks = .error crash)
      (aboutQueries : ∀ row ∈ rows, row.query.isSome = true) :
      Taken measuring sent queue done (.crashed crash) rows

/-- What a configuration has behind it at each phase, with its report and its rows. -/
inductive Travelled (conditions : Conditions) (configuration : Configuration) :
    Phase → ConfigReport → List Row → Prop where
  | pending : Travelled conditions configuration .pending (.fresh configuration.key) []
  | loading : Travelled conditions configuration .loading (.fresh configuration.key) []
  | training (split : Split) (scorer : Scorer) (asking : Bool)
      (loaded : configuration.source.load.result = .ok (.ok split))
      (built : configuration.algorithm.build = .ok scorer)
      (needed : scorer.requiresTraining = true) :
      Travelled conditions configuration (.training split scorer asking)
        { ConfigReport.fresh configuration.key with state := .training } []
  | fitting (split : Split) (scorer : Scorer)
      (loaded : configuration.source.load.result = .ok (.ok split))
      (built : configuration.algorithm.build = .ok scorer)
      (needed : scorer.requiresTraining = true) :
      Travelled conditions configuration (.fitting split scorer)
        { ConfigReport.fresh configuration.key with state := .training } []
  | scoring (split : Split) (score : Scoring) (progress : Batch.Progress)
      (queue sent : List Outcome) (measurer : Measurer) (rows : List Row)
      (ready : configuration.Ready split score)
      (accounted : Batch.Accounted (conditions.batch split) score split.queries progress sent)
      (taken : Taken (conditions.measuring configuration.key split) sent queue
        (progress.isDone split.queries) measurer rows) :
      Travelled conditions configuration (.scoring split score progress queue measurer)
        { ConfigReport.fresh configuration.key with
          state := .scoring, queries := split.queries.length } rows
  | scored (split : Split) (score : Scoring) (progress : Batch.Progress)
      (outcomes : List Outcome) (gathered : Gathered)
      (measured : Measured conditions configuration split score progress outcomes gathered)
      (everyone : progress.spawned.length = progress.next) :
      Travelled conditions configuration (.scored gathered)
        { ConfigReport.fresh configuration.key with
          state := .scored, queries := split.queries.length,
          scored := gathered.scored, failed := gathered.failed } gathered.rows
  | crashed (split : Split) (crash : Crash)
      (loaded : configuration.source.load.result = .ok (.ok split))
      (result : configuration.algorithm.build = .error crash) :
      Travelled conditions configuration (.crashed crash)
        { ConfigReport.fresh configuration.key with state := .training } []
  | ended (report : ConfigReport) (rows : List Row)
      (ended : Ended conditions configuration report rows) :
      Travelled conditions configuration .ended report rows

/-- What a configuration has behind it. -/
def Travels (conditions : Conditions) (task : Task) : Prop :=
  Travelled conditions task.configuration task.phase task.report task.rows

theorem travels_start (conditions : Conditions) (configuration : Configuration) :
    (start configuration).Travels conditions := .pending

/-- What holds between a configuration and the slots. -/
def Linked (position : Nat) (calls : Calls Slot) (task : Task) : Prop :=
  match task.phase with
  | .pending | .loading => ∀ part, (position, part) ∉ calls.names ∧
      (position, part) ∉ calls.budget.wishes
  | .training _ _ asking => ∀ part, (position, part) ∉ calls.names ∧
      ((position, part) ∈ calls.budget.wishes ↔ part = none ∧ asking = true)
  | .fitting _ _ => ∀ part, ((position, part) ∈ calls.names → part = none) ∧
      (position, part) ∉ calls.budget.wishes
  | .scoring _ _ progress _ _ => Batch.Linked (slots position) calls progress ∧
      (position, none) ∉ calls.budget.wishes
  | .scored _ | .crashed _ | .ended => ∀ part, (position, part) ∉ calls.budget.wishes

theorem travelled_beginScoring {configuration : Configuration} {split : Split} {score : Scoring}
    (ready : configuration.Ready split score) :
    Travelled conditions configuration (.scoring split score {} [] (.working .start {}))
      { ConfigReport.fresh configuration.key with
        state := .scoring, queries := split.queries.length } [] :=
  .scoring split score {} [] [] (.working .start {}) [] ready
    (Batch.accounted_start _ _ _) (.working [] .start {} rfl (Measuring.absorbed_start _))

/-- The queue takes an outcome in, or nobody takes outcomes any more. -/
theorem taken_enqueue {measuring : Measuring} {sent queue later : List Outcome} {done : Bool}
    {measurer : Measurer} {rows : List Row} {capacity : Nat} {outcome : Option Outcome}
    (taken : Taken measuring sent queue false measurer rows)
    (sends : enqueue capacity measurer queue outcome = some later) :
    Taken measuring (sent ++ outcome.toList) later done measurer rows := by
  cases outcome with
  | none =>
    cases sends
    rw [Option.toList_none, List.append_nil]
    cases taken with
    | working chunks reorder gathered whole absorbed =>
      exact .working chunks reorder gathered whole absorbed
    | finished chunks gathered whole all drains => cases all
    | crashed chunks crash rows arrived crashes aboutQueries =>
      exact .crashed chunks crash rows arrived crashes aboutQueries
  | some outcome =>
    cases taken with
    | working chunks reorder gathered whole absorbed =>
      simp only [enqueue] at sends
      split at sends
      · cases sends
        refine .working chunks reorder gathered ?_ absorbed
        rw [whole, Option.toList_some, List.append_assoc]
      · cases sends
    | finished chunks gathered whole all drains => cases all
    | crashed chunks crash rows arrived crashes aboutQueries =>
      exact .crashed chunks crash rows (arrived.trans (List.prefix_append _ _)) crashes
        aboutQueries

section Taking

variable {measuring : Measuring} {sent queue : List Outcome} {done : Bool} {reorder : Reorder}
  {gathered part : Gathered} {rows : List Row} {crash : Crash} {count : Nat}

/-- A chunk from the queue is measured. -/
theorem taken_absorb {after : Reorder}
    (taken : Taken measuring sent queue done (.working reorder gathered) rows)
    (absorbs : measuring.absorb reorder (queue.take count) = .ok (after, part)) :
    Taken measuring sent (queue.drop count) done (.working after (gathered ++ part))
      (rows ++ part.rows) := by
  cases taken with
  | working chunks _ _ whole absorbed =>
    refine .working (chunks ++ [queue.take count]) after (gathered ++ part) ?_
      (measuring.absorbed_absorb absorbed absorbs)
    rw [List.flatten_append, List.flatten_cons, List.flatten_nil, List.append_nil,
      List.append_assoc, List.take_append_drop]
    exact whole

/-- A chunk from the queue makes a metric crash. -/
theorem taken_absorb_crash
    (taken : Taken measuring sent queue done (.working reorder gathered) rows)
    (absorbs : measuring.absorb reorder (queue.take count) = .error crash) :
    Taken measuring sent [] done (.crashed crash) rows := by
  cases taken with
  | working chunks _ _ whole absorbed =>
    refine .crashed (chunks ++ [queue.take count]) crash _ ?_
      (measuring.drain_of_absorb_crash absorbed absorbs) absorbed.aboutQueries
    rw [whole, List.flatten_append, List.flatten_cons, List.flatten_nil, List.append_nil]
    exact List.prefix_append_right_inj _ |>.mpr (List.take_prefix count queue)

/-- What was held back is measured at the end. -/
theorem taken_finish (taken : Taken measuring sent [] done (.working reorder gathered) rows)
    (all : done = true) (finishes : measuring.finish reorder = .ok part) :
    Taken measuring sent [] done (.finished (gathered ++ part)) (rows ++ part.rows) := by
  cases taken with
  | working chunks _ _ whole absorbed =>
    refine .finished chunks (gathered ++ part) (by simpa using whole) all ?_
    rw [measuring.drain_of_finish absorbed, finishes]
    rfl

/-- What was held back makes a metric crash. -/
theorem taken_finish_crash (taken : Taken measuring sent [] done (.working reorder gathered) rows)
    (finishes : measuring.finish reorder = .error crash) :
    Taken measuring sent [] done (.crashed crash) rows := by
  cases taken with
  | working chunks _ _ whole absorbed =>
    refine .crashed chunks crash _ (by simp [whole]) ?_ absorbed.aboutQueries
    rw [measuring.drain_of_finish absorbed, finishes]
    rfl

end Taking

/-- When all outcomes were taken, the configuration was measured in full. -/
theorem measured_of_taken {configuration : Configuration} {split : Split} {score : Scoring}
    {progress : Batch.Progress} {sent queue : List Outcome} {gathered : Gathered}
    {rows : List Row} (ready : configuration.Ready split score)
    (accounted : Batch.Accounted (conditions.batch split) score split.queries progress sent)
    (taken : Taken (conditions.measuring configuration.key split) sent queue
      (progress.isDone split.queries) (.finished gathered) rows) :
    rows = gathered.rows ∧
      Measured conditions configuration split score progress sent gathered := by
  cases taken with
  | finished chunks _ whole all drains =>
    exact ⟨rfl, ready, accounted, all, chunks, whole.symm, drains⟩

/-- The split of a configuration is there, and its scorer is built. -/
theorem travels_beginTraining {split : Split} (travels : task.Travels conditions)
    (phase : task.phase = .loading)
    (result : task.configuration.source.load.result = .ok (.ok split)) :
    (task.beginTraining split).Travels conditions ∧
      (task.beginTraining split).configuration = task.configuration := by
  obtain ⟨configuration, before, report, rows, handed, announced⟩ := task
  change Travelled conditions configuration before report rows at travels
  cases phase
  cases travels
  simp only [beginTraining]
  cases built : configuration.algorithm.build with
  | error crash => exact ⟨.crashed split crash result built, rfl⟩
  | ok scorer =>
    simp only
    cases needed : scorer.requiresTraining with
    | true => exact ⟨.training split scorer false result built needed, rfl⟩
    | false => exact ⟨travelled_beginScoring (.untrained split scorer result built needed), rfl⟩

/-- Every move leads a configuration on its way. -/
theorem travels_moved {move : TaskMove} {later : Calls Slot} {after : Task}
    (travels : task.Travels conditions) (linked : task.Linked position calls)
    (moved : Moved conditions position calls task move later after) :
    after.Travels conditions ∧ after.configuration = task.configuration := by
  obtain ⟨configuration, phase, report, rows, handed, announced⟩ := task
  change Travelled conditions configuration phase report rows at travels
  unfold Linked at linked
  cases moved with
  | begins phase signal =>
    cases phase
    cases travels
    exact ⟨.loading, rfl⟩
  | refuses phase signal =>
    cases phase
    cases travels
    exact ⟨.ended _ _ (.early _ .notStarted), rfl⟩
  | loadingCrashes crash phase result =>
    cases phase
    cases travels
    exact ⟨.ended _ _ (.early _ (.loadingCrashed crash result)), rfl⟩
  | loadingFails error phase result =>
    cases phase
    cases travels
    exact ⟨.ended _ _ (.early _ (.notLoaded error result)), rfl⟩
  | loads split phase result =>
    exact travels_beginTraining travels phase result
  | trains split scorer asking later phase asks =>
    cases phase
    cases travels with
    | training _ _ _ loaded built needed => exact ⟨.fitting split scorer loaded built needed, rfl⟩
  | trainingRefused split scorer asking later phase asks =>
    cases phase
    cases travels with
    | training _ _ _ loaded built needed =>
      exact ⟨.ended _ _ (.early _ (.noSlot scorer built needed)), rfl⟩
  | waits split scorer later phase asks =>
    cases phase
    cases travels with
    | training _ _ _ loaded built needed =>
      exact ⟨.training split scorer true loaded built needed, rfl⟩
  | trainingCrashes split scorer crash phase returned result =>
    cases phase
    cases travels with
    | fitting _ _ loaded built needed =>
      exact ⟨.ended _ _ (.early _ (.trainingCrashed split scorer crash loaded built needed result)),
        rfl⟩
  | trainingFails split scorer error phase returned result =>
    cases phase
    cases travels with
    | fitting _ _ loaded built needed =>
      exact ⟨.ended _ _ (.early _ (.notTrained split scorer error loaded built needed result)), rfl⟩
  | fits split scorer score phase returned result =>
    cases phase
    cases travels with
    | fitting _ _ loaded built needed =>
      exact ⟨travelled_beginScoring (.trained split scorer score loaded built needed result), rfl⟩
  | batches split score progress queue later measurer move advance phase advances sends =>
    cases phase
    cases travels with
    | scoring _ _ _ _ sent _ _ ready accounted taken =>
      have unfinished : progress.isDone split.queries = false := by
        refine Bool.eq_false_iff.mpr fun done => ?_
        rw [Batch.advance_of_done done] at advances
        cases advances
      rw [unfinished] at taken
      exact ⟨.scoring split score advance.progress later _ measurer _ ready
        (Batch.accounted_advance accounted linked.1 advances) (taken_enqueue taken sends), rfl⟩
  | measures split score progress queue reorder after gathered part count phase some few enough
      absorbs =>
    cases phase
    cases travels with
    | scoring _ _ _ _ sent _ _ ready accounted taken =>
      exact ⟨.scoring split score progress _ sent _ _ ready accounted
        (taken_absorb taken absorbs), rfl⟩
  | measuringCrashes split score progress queue reorder gathered count crash phase some few enough
      absorbs =>
    cases phase
    cases travels with
    | scoring _ _ _ _ sent _ _ ready accounted taken =>
      exact ⟨.scoring split score progress _ sent _ _ ready accounted
        (taken_absorb_crash taken absorbs), rfl⟩
  | flushes split score progress reorder gathered part phase done finishes =>
    cases phase
    cases travels with
    | scoring _ _ _ _ sent _ _ ready accounted taken =>
      exact ⟨.scoring split score progress _ sent _ _ ready accounted
        (taken_finish taken done finishes), rfl⟩
  | flushingCrashes split score progress reorder gathered crash phase done finishes =>
    cases phase
    cases travels with
    | scoring _ _ _ _ sent _ _ ready accounted taken =>
      exact ⟨.scoring split score progress _ sent _ _ ready accounted
        (taken_finish_crash taken finishes), rfl⟩
  | concludesCrash split score progress queue crash phase done =>
    cases phase
    cases travels with
    | scoring _ _ _ _ sent _ _ ready accounted taken =>
      cases taken with
      | crashed chunks _ _ arrived crashes aboutQueries =>
        exact ⟨.ended _ _ (.measuringCrashed split score progress sent chunks crash _ ready
          accounted done arrived crashes aboutQueries), rfl⟩
  | concludesCancelled split score progress queue gathered phase done signal =>
    cases phase
    cases travels with
    | scoring _ _ _ _ sent _ _ ready accounted taken =>
      obtain ⟨rfl, measured⟩ := measured_of_taken ready accounted taken
      exact ⟨.ended _ _ (.cancelled split score progress sent gathered measured), rfl⟩
  | concludes split score progress queue gathered phase done signal =>
    cases phase
    cases travels with
    | scoring _ _ _ _ sent _ _ ready accounted taken =>
      obtain ⟨rfl, measured⟩ := measured_of_taken ready accounted taken
      exact ⟨.scored split score progress sent gathered measured
        (linked.1.everyone accounted signal), rfl⟩
  | aggregatingCrashes gathered crash takes phase measures =>
    cases phase
    cases travels with
    | scored split score progress outcomes _ measured everyone =>
      exact ⟨.ended _ _ (.aggregatingCrashed split score progress outcomes gathered crash measured
        everyone measures), rfl⟩
  | aggregates gathered analysis takes phase measures =>
    cases phase
    cases travels with
    | scored split score progress outcomes _ measured everyone =>
      exact ⟨.ended _ _ (.aggregated split score progress outcomes gathered analysis takes measured
        everyone measures), rfl⟩

/-! ### The slots -/

theorem slots_injective (position : Nat) : Function.Injective (slots position) := by
  intro first second same
  simpa using same

/-- Everybody in a run makes calls. -/
abbrev everybody : Slot → Prop := fun _ => True

/-- What a configuration has behind it whose queries are scored. -/
theorem scoring_of_travels {split : Split} {score : Scoring} {progress : Batch.Progress}
    {queue : List Outcome} {measurer : Measurer} (travels : task.Travels conditions)
    (phase : task.phase = .scoring split score progress queue measurer) :
    ∃ sent, task.configuration.Ready split score ∧
      Batch.Accounted (conditions.batch split) score split.queries progress sent ∧
      Taken (conditions.measuring task.configuration.key split) sent queue
        (progress.isDone split.queries) measurer task.rows := by
  obtain ⟨configuration, before, report, rows, handed, announced⟩ := task
  change Travelled conditions configuration before report rows at travels
  cases phase
  cases travels with
  | scoring _ _ _ _ sent _ _ ready accounted taken => exact ⟨sent, ready, accounted, taken⟩

/-- A move does nothing to the slots but ask for one that the configuration does not use, or cancel
the run. -/
theorem calls_of_moved {move : TaskMove} {later : Calls Slot} {after : Task}
    (travels : task.Travels conditions) (linked : task.Linked position calls)
    (moved : Moved conditions position calls task move later after) :
    (∃ cancels, later = calls.cancelIf cancels) ∨
      ∃ part cancels answer, (position, part) ∉ calls.names ∧
        calls.ask (position, part) cancels = (answer, later) := by
  have same : ∃ cancels, calls = calls.cancelIf cancels := ⟨false, rfl⟩
  unfold Linked at linked
  cases moved with
  | loadingCrashes | loadingFails | loads => exact Or.inl ⟨_, rfl⟩
  | trains split scorer asking later phase asks | waits split scorer later phase asks
  | trainingRefused split scorer asking later phase asks =>
    simp only [phase] at linked
    exact Or.inr ⟨none, _, _, (linked none).1, asks⟩
  | batches split score progress queue later measurer move advance phase advances sends =>
    simp only [phase] at linked
    obtain ⟨sent, -, accounted, -⟩ := scoring_of_travels travels phase
    obtain equal | ⟨cancels, answer, asks⟩ := Batch.calls_of_advance advances
    · exact Or.inl (equal ▸ same)
    · exact Or.inr ⟨_, _, _, Batch.fresh_next accounted linked.1, asks⟩
  | _ => exact Or.inl same

section Moving

variable {move : TaskMove} {later : Calls Slot} {after : Task}
  (travels : task.Travels conditions) (linked : task.Linked position calls)
  (moved : Moved conditions position calls task move later after)

include travels linked moved

theorem sound_moved (sound : calls.Sound everybody) : later.Sound everybody := by
  obtain ⟨cancels, rfl⟩ | ⟨part, cancels, answer, fresh, asks⟩ :=
    calls_of_moved travels linked moved
  · exact Calls.sound_cancelIf sound cancels
  · exact Calls.sound_ask sound asks trivial fresh

theorem size_moved : later.budget.size = calls.budget.size := by
  obtain ⟨cancels, rfl⟩ | ⟨part, cancels, answer, fresh, asks⟩ :=
    calls_of_moved travels linked moved
  · exact Calls.size_cancelIf cancels
  · exact Calls.size_of_ask asks

/-- No move takes a cancellation back. -/
theorem cancelled_moved (signal : calls.cancelled = true) : later.cancelled = true := by
  obtain ⟨cancels, rfl⟩ | ⟨part, cancels, answer, fresh, asks⟩ :=
    calls_of_moved travels linked moved
  · rw [Calls.cancelled_cancelIf, signal, Bool.true_or]
  · rw [Calls.cancelled_of_ask asks, signal]

/-- Once the run is cancelled, no move begins a call. -/
theorem ongoing_moved (signal : calls.cancelled = true) : later.ongoing = calls.ongoing := by
  obtain ⟨cancels, rfl⟩ | ⟨part, cancels, answer, fresh, asks⟩ :=
    calls_of_moved travels linked moved
  · exact Calls.ongoing_cancelIf calls cancels
  · cases Calls.asked_of_ask asks with
    | granted budget free =>
      rw [signal] at free
      cases free
    | refused | waiting => rfl

/-- A move changes nothing about the slots of other configurations. -/
theorem others_moved {slot : Slot} (other : slot.1 ≠ position) :
    (slot ∈ later.names ↔ slot ∈ calls.names) ∧
      (slot ∈ later.budget.wishes ↔ slot ∈ calls.budget.wishes) := by
  obtain ⟨cancels, rfl⟩ | ⟨part, cancels, answer, fresh, asks⟩ :=
    calls_of_moved travels linked moved
  · rw [Calls.names_cancelIf, Calls.wishes_cancelIf]
    exact ⟨Iff.rfl, Iff.rfl⟩
  · have different : slot ≠ (position, part) := fun same => other (congrArg Prod.fst same)
    exact ⟨Calls.mem_names_of_ask_of_ne asks different, (Calls.mem_of_ask_of_ne asks different).1⟩

end Moving

/-- What others do to the slots does not matter as long as it leaves a configuration its own. -/
theorem Linked.of_others (linked : task.Linked position calls) {later : Calls Slot}
    (signal : calls.cancelled = true → later.cancelled = true)
    (names : ∀ part, (position, part) ∈ later.names → (position, part) ∈ calls.names)
    (wishes : ∀ part, (position, part) ∈ later.budget.wishes ↔
      (position, part) ∈ calls.budget.wishes) : task.Linked position later := by
  unfold Linked at linked ⊢
  split at linked
  · exact fun part => ⟨fun member => (linked part).1 (names part member),
      fun member => (linked part).2 ((wishes part).mp member)⟩
  · exact fun part => ⟨fun member => (linked part).1 (names part member),
      fun member => (linked part).2 ((wishes part).mp member)⟩
  · exact fun part => ⟨fun member => (linked part).1 (names part member),
      (wishes part).trans (linked part).2⟩
  · exact fun part => ⟨fun member => (linked part).1 (names part member),
      fun member => (linked part).2 ((wishes part).mp member)⟩
  · exact ⟨linked.1.of_others signal (fun _ => names _) fun _ => wishes _,
      fun member => linked.2 ((wishes none).mp member)⟩
  · exact fun part member => linked part ((wishes part).mp member)
  · exact fun part member => linked part ((wishes part).mp member)
  · exact fun part member => linked part ((wishes part).mp member)

/-- A batch that has not begun is in keeping with slots of which it has none and wants none. -/
theorem linked_beginScoring {position : Nat} {calls : Calls Slot}
    (names : ∀ index, slots position index ∉ calls.names)
    (wishes : ∀ part, (position, part) ∉ calls.budget.wishes) :
    Batch.Linked (slots position) calls {} ∧ (position, none) ∉ calls.budget.wishes :=
  ⟨⟨by simp, fun index member => absurd member (names index), fun index =>
    ⟨fun member => absurd member (wishes _), fun next => by cases next.2⟩⟩, wishes none⟩

/-- A configuration stays in keeping with the slots whatever move it makes. -/
theorem linked_moved {move : TaskMove} {later : Calls Slot} {after : Task}
    (sound : calls.Sound everybody) (travels : task.Travels conditions)
    (linked : task.Linked position calls)
    (moved : Moved conditions position calls task move later after) :
    after.Linked position later := by
  unfold Linked at linked
  cases moved with
  | begins phase signal =>
    simp only [phase] at linked
    exact linked
  | refuses phase signal =>
    simp only [phase] at linked
    exact fun part => (linked part).2
  | loadingCrashes crash phase result | loadingFails error phase result =>
    simp only [phase] at linked
    exact fun part => by
      rw [Calls.wishes_cancelIf]
      exact (linked part).2
  | loads split phase result =>
    simp only [phase] at linked
    have names (part : Option Nat) : (position, part) ∉
        (calls.cancelIf task.configuration.source.load.cancels).names := by
      rw [Calls.names_cancelIf]
      exact (linked part).1
    have wishes (part : Option Nat) : (position, part) ∉
        (calls.cancelIf task.configuration.source.load.cancels).budget.wishes := by
      rw [Calls.wishes_cancelIf]
      exact (linked part).2
    unfold beginTraining
    split
    · exact wishes
    split
    · exact fun part => ⟨names part, fun member => absurd member (wishes part), fun asks => by
        cases asks.2⟩
    · exact linked_beginScoring (fun index => names _) wishes
  | trains split scorer asking later phase asks =>
    simp only [phase] at linked
    have wishes := Calls.wishes_of_answered sound asks trivial (linked none).1 (by decide)
    intro part
    constructor
    · intro member
      rw [Calls.names_of_granted asks, List.mem_cons] at member
      rcases member with same | earlier
      · exact congrArg Prod.snd same
      · exact absurd earlier (linked part).1
    · rw [wishes, (linked part).2]
      rintro ⟨different, rfl, -⟩
      exact different rfl
  | trainingRefused split scorer asking later phase asks =>
    simp only [phase] at linked
    have wishes := Calls.wishes_of_answered sound asks trivial (linked none).1 (by decide)
    intro part
    rw [wishes, (linked part).2]
    rintro ⟨different, rfl, -⟩
    exact different rfl
  | waits split scorer later phase asks =>
    simp only [phase] at linked
    intro part
    constructor
    · rw [Calls.names, Calls.ongoing_of_not_granted asks (by decide)]
      exact (linked part).1
    · rw [Calls.wishes_of_waiting asks, (linked part).2]
      simp
  | trainingCrashes split scorer crash phase returned result
  | trainingFails split scorer error phase returned result =>
    simp only [phase] at linked
    exact fun part => (linked part).2
  | fits split scorer score phase returned result =>
    simp only [phase] at linked
    refine linked_beginScoring (fun index member => ?_) fun part => (linked part).2
    cases (linked _).1 member
  | batches split score progress queue later measurer move advance phase advances sends =>
    simp only [phase] at linked
    obtain ⟨sent, -, accounted, -⟩ := scoring_of_travels travels phase
    refine ⟨Batch.linked_advance sound (fun _ => trivial) (slots_injective position) accounted
      linked.1 advances, ?_⟩
    obtain same | ⟨cancels, answer, asks⟩ := Batch.calls_of_advance advances
    · rw [same]
      exact linked.2
    · rw [(Calls.mem_of_ask_of_ne asks (by simp [slots])).1]
      exact linked.2
  | measures split score progress queue reorder after gathered part count phase
  | measuringCrashes split score progress queue reorder gathered count crash phase
  | flushes split score progress reorder gathered part phase
  | flushingCrashes split score progress reorder gathered crash phase =>
    simp only [phase] at linked
    exact linked
  | concludesCrash split score progress queue crash phase done
  | concludesCancelled split score progress queue gathered phase done signal
  | concludes split score progress queue gathered phase done signal =>
    simp only [phase] at linked
    obtain ⟨sent, -, accounted, -⟩ := scoring_of_travels travels phase
    intro part member
    cases part with
    | none => exact linked.2 member
    | some index =>
      -- No query waits for its slot any more, since the batch is through.
      have asking := ((linked.1.wishing index).mp member).2
      have := accounted.awaits asking
      have := (of_decide_eq_true done).1
      omega
  | aggregatingCrashes gathered crash takes phase measures
  | aggregates gathered analysis takes phase measures =>
    simp only [phase] at linked
    exact linked

/-- Rows that were sent stay, and moves of a configuration hand none of them on. -/
theorem rows_moved {move : TaskMove} {later : Calls Slot} {after : Task}
    (moved : Moved conditions position calls task move later after) :
    task.rows <+: after.rows ∧ after.handed = task.handed := by
  cases moved with
  | loads split phase result =>
    unfold beginTraining
    split
    · exact ⟨List.prefix_refl _, rfl⟩
    split <;> exact ⟨List.prefix_refl _, rfl⟩
  | refuses | loadingCrashes | loadingFails | trainingRefused | trainingCrashes | trainingFails
  | measures | flushes | concludesCrash | concludesCancelled | aggregatingCrashes | aggregates =>
    exact ⟨List.prefix_append _ _, rfl⟩
  | _ => exact ⟨List.prefix_refl _, rfl⟩

theorem handed_moved {move : TaskMove} {later : Calls Slot} {after : Task}
    (handed : task.handed ≤ task.rows.length)
    (moved : Moved conditions position calls task move later after) :
    after.handed ≤ after.rows.length := by
  obtain ⟨stays, same⟩ := rows_moved moved
  rw [same]
  exact Nat.le_trans handed stays.length_le

/-! ### Crashes that nothing catches -/

/-- The report of a crash that nothing inside the task caught ends a configuration. -/
theorem travels_failCrashed {crash : Crash} (travels : task.Travels conditions)
    (phase : task.phase = .crashed crash) : (task.failCrashed crash).Travels conditions := by
  obtain ⟨configuration, before, report, rows, handed, announced⟩ := task
  change Travelled conditions configuration before report rows at travels
  cases phase
  cases travels with
  | crashed _ _ _ result => exact .ended _ _ (.early _ (.notBuilt crash result))

theorem linked_failCrashed {crash : Crash} (linked : task.Linked position calls)
    (phase : task.phase = .crashed crash) : (task.failCrashed crash).Linked position calls := by
  unfold Linked at linked
  simp only [phase] at linked
  exact linked

end Task

end Holdout
