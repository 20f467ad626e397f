/-
This file proves that the configurations of a run do not touch one another. A configuration that is
evaluated by itself, one step after the other, comes to a report and to rows that only depend on its
algorithm, its split, and the metrics, the limit and the candidates of the plan. In every run that
is not cancelled and puts the rows in the order of the queries, whatever becomes of the other
configurations, whichever slots they take and whatever the sink refuses, it comes to the same.
-/

import Holdout.Proofs.Failure
import Holdout.Proofs.Report
import Holdout.Proofs.Streaming

namespace Holdout

/-! ### A batch in order -/

namespace Batch

variable {batch : Batch} {score : Scoring} {queries : List Query}

/-- The outcomes of a batch in the order of the queries, if all of them get a slot and the tasks of
some vanish. -/
def outcomes (batch : Batch) (score : Scoring) (queries : List Query) (lost : List Nat) :
    List Outcome :=
  queries.zipIdx.map fun entry =>
    ⟨entry.2, entry.1.id, if entry.2 ∈ lost then .error aborted else batch.scoreOne score entry.1⟩

theorem mem_outcomes {lost : List Nat} {outcome : Outcome} :
    outcome ∈ batch.outcomes score queries lost ↔ ∃ query, queries[outcome.index]? = some query ∧
      outcome.query = query.id ∧
      outcome.result =
        if outcome.index ∈ lost then .error aborted else batch.scoreOne score query := by
  simp only [outcomes, List.mem_map, Prod.exists, List.mem_zipIdx_iff_getElem?]
  constructor
  · rintro ⟨query, index, present, rfl⟩
    exact ⟨query, present, rfl, rfl⟩
  · rintro ⟨query, present, name, result⟩
    refine ⟨query, outcome.index, present, ?_⟩
    rw [← name, ← result]

theorem index_outcomes (lost : List Nat) :
    (batch.outcomes score queries lost).map Outcome.index = List.range queries.length := by
  rw [outcomes, List.map_map, List.range_eq_range']
  exact List.zipIdx_map_snd 0 queries

/-- Which tasks vanished matters, not in which order. -/
theorem outcomes_congr {lost others : List Nat} (same : ∀ index, index ∈ lost ↔ index ∈ others) :
    batch.outcomes score queries lost = batch.outcomes score queries others := by
  simp only [outcomes, same]

/-- A batch all of whose queries got a slot sends these outcomes, in some order. -/
theorem ordered_eq_outcomes {progress : Progress} {sent : List Outcome}
    (accounted : Accounted batch score queries progress sent)
    (done : progress.isDone queries = true) (everyone : progress.spawned.length = progress.next) :
    (Results.ofOutcomes sent).ordered.outcomes = batch.outcomes score queries progress.lost := by
  have covers := accounted.complete done
  have reached : queries.length ≤ progress.next := (of_decide_eq_true done).1
  have perm : (Results.ofOutcomes sent).ordered.outcomes.Perm sent := List.mergeSort_perm _ _
  have deserved {index : Nat} {query : Query} (present : queries[index]? = some query) :
      batch.deserved score progress index query =
        if index ∈ progress.lost then .error aborted else batch.scoreOne score query := by
    have below := (List.getElem?_eq_some_iff.mp present).1
    rw [Batch.deserved, if_neg (by omega)]
  have sentDistinct : sent.Nodup := List.Nodup.of_map Outcome.index covers.distinct
  have distinct : (batch.outcomes score queries progress.lost).Nodup := by
    refine List.Nodup.of_map Outcome.index ?_
    rw [index_outcomes]
    exact List.nodup_range
  -- Both have one outcome for each position, so they are the same outcomes in the same order.
  have same : sent.Perm (batch.outcomes score queries progress.lost) := by
    refine (List.perm_ext_iff_of_nodup sentDistinct distinct).mpr fun outcome => ?_
    rw [mem_outcomes]
    constructor
    · intro member
      obtain ⟨query, present, name, result⟩ := accounted.faithful outcome member
      exact ⟨query, present, name, result.trans (deserved present)⟩
    · rintro ⟨query, present, name, result⟩
      have inside : outcome.index ∈ sent.map Outcome.index :=
        covers.indexes.mem_iff.mpr (List.mem_range.mpr (List.getElem?_eq_some_iff.mp present).1)
      obtain ⟨other, member, equal⟩ := List.mem_map.mp inside
      obtain ⟨found, foundPresent, foundName, foundResult⟩ := accounted.faithful other member
      rw [equal] at foundPresent foundResult
      obtain rfl : query = found := Option.some.inj (present.symm.trans foundPresent)
      have whole : other = outcome := by
        cases other
        cases outcome
        simp_all
      exact whole ▸ member
  have ascending : Reorder.Ascending (batch.outcomes score queries progress.lost) := by
    refine List.pairwise_map.mp ?_
    rw [index_outcomes]
    exact List.pairwise_lt_range
  exact Reorder.eq_of_perm_of_ascending (perm.trans same)
    (Reorder.ascending_ordered covers.distinct) ascending

end Batch

/-! ### A configuration by itself -/

namespace Configuration

/-- The split of a configuration and the scoring of its queries, or the failure that it ends with
before these are scored. -/
def prepared (configuration : Configuration) : Except ConfigFailure (Split × Scoring) :=
  match configuration.source.load.result with
  | .error crash => .error ⟨.loading, .crashed crash⟩
  | .ok (.error error) => .error ⟨.loading, .data error⟩
  | .ok (.ok split) =>
    match configuration.algorithm.build with
    | .error crash => .error ⟨.scoring, .crashed crash⟩
    | .ok scorer =>
      if scorer.requiresTraining then
        match (scorer.train split.train).result with
        | .error crash => .error ⟨.training, .crashed crash⟩
        | .ok (.error error) => .error ⟨.training, .scorer error⟩
        | .ok (.ok score) => .ok (split, score)
      else .ok (split, scorer.score)

/-- What a configuration comes to that fails. -/
def failed (report : ConfigReport) (rows : List Row) (failure : ConfigFailure) :
    ConfigReport × List Row :=
  ({ report with state := .ofFailure failure },
    rows ++ [Row.ofFailure report.key none failure.message])

/-- What the outcomes of a configuration are measured to come to. -/
def measured (metrics : List Metric) (configuration : Configuration) (split : Split)
    (gathered : Gathered) : ConfigReport × List Row :=
  let report := { ConfigReport.fresh configuration.key with
    queries := split.queries.length, scored := gathered.scored, failed := gathered.failed }
  match gathered.analysis metrics with
  | .error crash => failed report gathered.rows ⟨.measuring, .crashed crash⟩
  | .ok analysis =>
    ({ report with state := .aggregated, summary := analysis.summary },
      gathered.rows ++ analysis.global.map fun value =>
        Row.ofMetric configuration.key none value.1 value.2)

/-- What a configuration comes to that is evaluated by itself, one step after the other: its report,
without the time it took, and its rows. The tasks of some queries vanish. -/
def evaluated (conditions : Conditions) (configuration : Configuration) (lost : List Nat) :
    Guarded (ConfigReport × List Row) :=
  match configuration.prepared with
  | .error failure => .ok (failed (ConfigReport.fresh configuration.key) [] failure)
  | .ok (split, score) =>
    ((conditions.measuring configuration.key split).gatherAll
      ((conditions.batch split).outcomes score split.queries lost)).map
        (measured conditions.metrics configuration split)

section

variable {configuration : Configuration} {split : Split} {scorer : Scorer} {score : Scoring}
  {crash : Crash}

theorem prepared_of_loadingCrash (result : configuration.source.load.result = .error crash) :
    configuration.prepared = .error ⟨.loading, .crashed crash⟩ := by
  rw [prepared, result]

theorem prepared_of_notLoaded {error : DataError}
    (result : configuration.source.load.result = .ok (.error error)) :
    configuration.prepared = .error ⟨.loading, .data error⟩ := by
  rw [prepared, result]

theorem prepared_of_notBuilt (loaded : configuration.source.load.result = .ok (.ok split))
    (result : configuration.algorithm.build = .error crash) :
    configuration.prepared = .error ⟨.scoring, .crashed crash⟩ := by
  simp only [prepared, loaded, result]

theorem prepared_of_trainingCrash (loaded : configuration.source.load.result = .ok (.ok split))
    (built : configuration.algorithm.build = .ok scorer) (needed : scorer.requiresTraining = true)
    (result : (scorer.train split.train).result = .error crash) :
    configuration.prepared = .error ⟨.training, .crashed crash⟩ := by
  simp only [prepared, loaded, built, needed, if_true, result]

theorem prepared_of_notTrained {error : ScorerError}
    (loaded : configuration.source.load.result = .ok (.ok split))
    (built : configuration.algorithm.build = .ok scorer) (needed : scorer.requiresTraining = true)
    (result : (scorer.train split.train).result = .ok (.error error)) :
    configuration.prepared = .error ⟨.training, .scorer error⟩ := by
  simp only [prepared, loaded, built, needed, if_true, result]

theorem prepared_of_ready (ready : configuration.Ready split score) :
    configuration.prepared = .ok (split, score) := by
  cases ready with
  | untrained scorer loaded built ready =>
    simp only [prepared, loaded, built, ready, Bool.false_eq_true, if_false]
  | trained scorer score loaded built needed result =>
    simp only [prepared, loaded, built, needed, if_true, result]

end

/-- Conditions under which a configuration comes to the same. -/
structure Alike (first second : Conditions) : Prop where
  metrics : first.metrics = second.metrics
  limit : first.limit = second.limit
  mode : first.mode = second.mode
  timeout : first.timeout = second.timeout
  ordered : first.ordered = second.ordered

theorem evaluated_congr {first second : Conditions} (alike : Alike first second)
    (configuration : Configuration) {lost others : List Nat}
    (same : ∀ index, index ∈ lost ↔ index ∈ others) :
    evaluated first configuration lost = evaluated second configuration others := by
  obtain ⟨metrics, limit, mode, timeout, ordered⟩ := alike
  simp only [evaluated, Conditions.measuring, Conditions.batch, metrics, limit, mode,
    timeout, ordered, Batch.outcomes_congr same]

end Configuration

/-! ### A configuration among others -/

/-- The query whose task a move makes vanish, if it does. -/
def TaskMove.lost : TaskMove → List Nat
  | .batch (.lose index) => [index]
  | _ => []

/-- The query of the configuration at a position whose task a move makes vanish, if it does. -/
def RunMove.lost (position : Nat) : RunMove → List Nat
  | .task other move => if other = position then move.lost else []
  | _ => []

/-- The queries of the configuration at a position whose tasks some moves make vanish. -/
def RunMove.lostOf (position : Nat) (moves : List RunMove) : List Nat :=
  moves.flatMap (RunMove.lost position)

theorem TaskMove.mem_lost {move : TaskMove} {index : Nat} :
    index ∈ move.lost ↔ move = .batch (.lose index) := by
  unfold lost
  split
  · rw [List.mem_singleton, TaskMove.batch.injEq, Batch.Move.lose.injEq, eq_comm]
  · rename_i different
    exact iff_of_false List.not_mem_nil (different index)

theorem RunMove.mem_lost {position index : Nat} {move : RunMove} :
    index ∈ move.lost position ↔ move = .task position (.batch (.lose index)) := by
  unfold lost
  split
  · rename_i other move
    rw [RunMove.task.injEq]
    by_cases same : other = position
    · rw [if_pos same, TaskMove.mem_lost, and_iff_right same]
    · rw [if_neg same]
      exact iff_of_false List.not_mem_nil fun both => same both.1
  · rename_i different
    exact iff_of_false List.not_mem_nil (different position _)

theorem RunMove.mem_lostOf {position index : Nat} {moves : List RunMove} :
    index ∈ lostOf position moves ↔ .task position (.batch (.lose index)) ∈ moves := by
  rw [lostOf, List.mem_flatMap]
  simp only [mem_lost, exists_eq_right]

/-- Only a task that vanishes is among those that vanished. -/
theorem Batch.lost_of_advanced {Name : Type} [DecidableEq Name] {batch : Batch} {score : Scoring}
    {queries : List Query} {name : Nat → Name} {calls : Calls Name} {progress : Batch.Progress}
    {move : Batch.Move} {advance : Batch.Advance Name}
    (advanced : Advanced batch score queries name calls progress move advance) :
    advance.progress.lost = progress.lost ++ (TaskMove.batch move).lost := by
  cases advanced with
  | loses index running => rfl
  | _ => exact (List.append_nil _).symm

namespace Task

variable {conditions : Conditions} {position : Nat} {calls later : Calls Slot}
  {task after : Task} {move : TaskMove} {lost : List Nat}

/-- What a configuration comes to, without the time it took. -/
def result (task : Task) : ConfigReport × List Row :=
  ({ task.report with duration := ⟨0⟩ }, task.rows)

/-- Whether a configuration is on the way to what it comes to by itself, if the tasks of these of
its queries vanish. -/
def OnCourse (conditions : Conditions) (lost : List Nat) (task : Task) : Prop :=
  match task.phase with
  | .pending | .loading | .training _ _ _ | .fitting _ _ | .crashed _ => lost = []
  | .scoring _ _ progress _ _ => progress.lost = lost
  | .scored gathered => ∃ split score, task.configuration.Ready split score ∧
      (conditions.measuring task.configuration.key split).gatherAll
        ((conditions.batch split).outcomes score split.queries lost) = .ok gathered
  | .ended => task.configuration.evaluated conditions lost = .ok task.result

theorem onCourse_start (conditions : Conditions) (configuration : Configuration) :
    (start configuration).OnCourse conditions [] := rfl

/-- A failure before scoring is the one that the configuration ends with by itself. -/
theorem onCourse_fail {failure : ConfigFailure} {state : ConfigState}
    (fails : task.configuration.prepared = .error failure)
    (report : task.report = { ConfigReport.fresh task.configuration.key with state })
    (rows : task.rows = []) : (task.fail failure).OnCourse conditions [] := by
  show task.configuration.evaluated conditions [] = .ok (task.fail failure).result
  rw [Configuration.evaluated, fails, result, fail, report, rows]
  rfl

theorem onCourse_beginTraining {split : Split} :
    (task.beginTraining split).OnCourse conditions [] := by
  unfold beginTraining
  split
  · exact rfl
  split <;> exact rfl

/-- What was measured in full, in the order of the queries. -/
theorem gathers_of_measured {configuration : Configuration} {split : Split} {score : Scoring}
    {progress : Batch.Progress} {sent : List Outcome} {gathered : Gathered}
    (ordered : conditions.ordered = true)
    (measured : Measured conditions configuration split score progress sent gathered)
    (everyone : progress.spawned.length = progress.next) :
    (conditions.measuring configuration.key split).gatherAll
      ((conditions.batch split).outcomes score split.queries progress.lost) = .ok gathered := by
  obtain ⟨chunks, rfl, drains⟩ := measured.drained
  have covers := measured.accounted.complete measured.done
  have arranged : (conditions.measuring configuration.key split).arranged chunks =
      (Reorder.inOrder chunks).flatten := if_pos ordered
  rw [Measuring.drain_eq, arranged, Reorder.flatten_inOrder covers.distinct (List.Perm.refl _),
    Batch.ordered_eq_outcomes measured.accounted measured.done everyone] at drains
  exact drains

/-- When the last outcome is measured and the run is not cancelled, all queries were scored. -/
theorem onCourse_concludes {split : Split} {score : Scoring} {progress : Batch.Progress}
    {queue : List Outcome} {gathered : Gathered} (ordered : conditions.ordered = true)
    (travels : task.Travels conditions) (linked : task.Linked position calls)
    (phase : task.phase = .scoring split score progress queue (.finished gathered))
    (signal : calls.cancelled = false) (report : ConfigReport) :
    OnCourse conditions progress.lost
      (setState { task with phase := .scored gathered, report } .scored) := by
  obtain ⟨sent, ready, accounted, taken⟩ := scoring_of_travels travels phase
  obtain ⟨-, measured⟩ := measured_of_taken ready accounted taken
  unfold Linked at linked
  simp only [phase] at linked
  exact ⟨split, score, ready,
    gathers_of_measured ordered measured (linked.1.everyone accounted signal)⟩

/-- A configuration that was measured in full comes to what the global metrics make of it. -/
theorem evaluated_of_scored {configuration : Configuration} {report : ConfigReport}
    {rows : List Row} {gathered : Gathered} {split : Split} {score : Scoring}
    (travelled : Travelled conditions configuration (.scored gathered) report rows)
    (ready : configuration.Ready split score)
    (gathers : (conditions.measuring configuration.key split).gatherAll
      ((conditions.batch split).outcomes score split.queries lost) = .ok gathered) :
    report = { ConfigReport.fresh configuration.key with
        state := .scored, queries := split.queries.length,
        scored := gathered.scored, failed := gathered.failed } ∧
      rows = gathered.rows ∧
      configuration.evaluated conditions lost =
        .ok (configuration.measured conditions.metrics split gathered) := by
  have prepared := Configuration.prepared_of_ready ready
  cases travelled with
  | scored other _ progress outcomes _ measured everyone =>
    have same := prepared.symm.trans (Configuration.prepared_of_ready measured.ready)
    obtain ⟨rfl, rfl⟩ := Prod.mk.inj (Except.ok.inj same)
    refine ⟨rfl, rfl, ?_⟩
    simp only [Configuration.evaluated, prepared, gathers]
    rfl

/-- As long as the run is not cancelled, every move keeps a configuration on its way. -/
theorem onCourse_moved (travels : task.Travels conditions) (linked : task.Linked position calls)
    (onCourse : task.OnCourse conditions lost) (ordered : conditions.ordered = true)
    (calm : ∀ crash, ¬ Metric.ListCrash conditions.metrics crash)
    (uncut : later.cancelled = false)
    (moved : Moved conditions position calls task move later after) :
    after.OnCourse conditions (lost ++ move.lost) := by
  obtain ⟨configuration, before, report, rows, handed, announced⟩ := task
  have travelled : Travelled conditions configuration before report rows := travels
  cases moved with
  | begins phase signal | trains split scorer asking later phase asks
  | waits split scorer later phase asks | fits split scorer score phase returned result =>
    cases phase
    obtain rfl : lost = [] := onCourse
    exact rfl
  | refuses phase signal
  | concludesCancelled split score progress queue gathered phase done signal =>
    rw [signal] at uncut
    cases uncut
  | loadingCrashes crash phase result =>
    cases phase
    cases travelled
    obtain rfl : lost = [] := onCourse
    exact onCourse_fail (Configuration.prepared_of_loadingCrash result) rfl rfl
  | loadingFails error phase result =>
    cases phase
    cases travelled
    obtain rfl : lost = [] := onCourse
    exact onCourse_fail (Configuration.prepared_of_notLoaded result) rfl rfl
  | loads split phase result =>
    cases phase
    obtain rfl : lost = [] := onCourse
    exact onCourse_beginTraining
  | trainingRefused split scorer asking later phase asks =>
    cases Calls.asked_of_ask asks with
    | refused budget signal =>
      rw [Calls.cancelled_of_ask asks, signal] at uncut
      cases uncut
  | trainingCrashes split scorer crash phase returned result =>
    cases phase
    cases travelled with
    | fitting _ _ loaded built needed =>
      obtain rfl : lost = [] := onCourse
      exact onCourse_fail (Configuration.prepared_of_trainingCrash loaded built needed result) rfl
        rfl
  | trainingFails split scorer error phase returned result =>
    cases phase
    cases travelled with
    | fitting _ _ loaded built needed =>
      obtain rfl : lost = [] := onCourse
      exact onCourse_fail (Configuration.prepared_of_notTrained loaded built needed result) rfl rfl
  | batches split score progress queue left measurer move advance phase advances sends =>
    cases phase
    obtain rfl : progress.lost = lost := onCourse
    exact Batch.lost_of_advanced (Batch.advanced_of_advance advances)
  | measures split score progress queue reorder next gathered part count phase
  | measuringCrashes split score progress queue reorder gathered count crash phase
  | flushes split score progress reorder gathered part phase
  | flushingCrashes split score progress reorder gathered crash phase =>
    cases phase
    obtain rfl : progress.lost = lost := onCourse
    exact (List.append_nil _).symm
  | concludesCrash split score progress queue crash phase done =>
    -- Only a list metric can crash while the outcomes are measured, and none of them does.
    obtain ⟨sent, ready, accounted, taken⟩ := scoring_of_travels travels phase
    cases taken with
    | crashed chunks _ _ arrived crashes aboutQueries =>
      exact absurd (Measuring.listCrash_of_drain crashes) (calm crash)
  | concludes split score progress queue gathered phase done signal =>
    have way := onCourse_concludes ordered travels linked phase signal
    cases phase
    obtain rfl : progress.lost = lost := onCourse
    show OnCourse conditions (progress.lost ++ []) _
    rw [List.append_nil]
    exact way _
  | aggregatingCrashes gathered crash takes phase measures
  | aggregates gathered analysis takes phase measures =>
    cases phase
    obtain ⟨split, score, ready, gathers⟩ := onCourse
    obtain ⟨rfl, rfl, comes⟩ := evaluated_of_scored travelled ready gathers
    rw [Configuration.measured, measures] at comes
    show configuration.evaluated conditions (lost ++ []) = _
    rw [List.append_nil, comes]
    rfl

/-- The crash of a task that nothing caught is the failure of its configuration. -/
theorem onCourse_failCrashed {crash : Crash} (travels : task.Travels conditions)
    (phase : task.phase = .crashed crash) (onCourse : task.OnCourse conditions lost) :
    (task.failCrashed crash).OnCourse conditions lost := by
  obtain ⟨configuration, before, report, rows, handed, announced⟩ := task
  change Travelled conditions configuration before report rows at travels
  cases phase
  cases travels with
  | crashed split _ loaded result =>
    obtain rfl : lost = [] := onCourse
    show OnCourse conditions []
      (fail ⟨configuration, .crashed crash, .fresh configuration.key, [], handed, announced⟩ _)
    exact onCourse_fail (Configuration.prepared_of_notBuilt loaded result) rfl rfl

end Task

namespace Run

variable {conditions : Conditions} {configurations : List Configuration} {run after : Run}

/-- Whether all configurations are on the way to what they come to by themselves. -/
def OnCourse (conditions : Conditions) (lost : Nat → List Nat) (run : Run) : Prop :=
  ∀ (position : Nat) (task : Task), run.tasks[position]? = some task →
    task.OnCourse conditions (lost position)

theorem onCourse_start (conditions : Conditions) (cancelled : Bool)
    (configurations : List Configuration) :
    (start conditions cancelled configurations).OnCourse conditions fun _ => [] := by
  intro position task present
  obtain ⟨configuration, -, rfl⟩ := List.mem_map.mp (List.mem_of_getElem? present)
  exact Task.onCourse_start conditions configuration

/-- Whatever a configuration does, and whatever becomes of the slots, leaves the others on their
way. -/
theorem onCourse_stepped {lost : Nat → List Nat} {move : RunMove}
    (kept : Kept conditions configurations run) (onCourse : run.OnCourse conditions lost)
    (ordered : conditions.ordered = true)
    (calm : ∀ crash, ¬ Metric.ListCrash conditions.metrics crash)
    (uncut : after.calls.cancelled = false) (stepped : Stepped conditions run move after) :
    after.OnCourse conditions fun position => lost position ++ move.lost position := by
  intro other found there
  have nothing : lost other ++ [] = lost other := List.append_nil _
  cases stepped with
  | task position move task later calls present admitted moved =>
    show found.OnCourse conditions (lost other ++ if position = other then move.lost else [])
    obtain ⟨rfl, rfl⟩ | ⟨different, before⟩ := getElem?_set_cases present there
    · rw [if_pos rfl]
      exact Task.onCourse_moved (kept.travels other task present) (kept.linked other task present)
        (onCourse other task present) ordered calm uncut moved
    · rw [if_neg (Ne.symm different), nothing]
      exact onCourse other found before
  | finish slot calls ends =>
    show found.OnCourse conditions (lost other ++ [])
    rw [nothing]
    exact onCourse other found there
  | hand position task row present next =>
    show found.OnCourse conditions (lost other ++ [])
    rw [nothing]
    obtain ⟨rfl, rfl⟩ | ⟨-, before⟩ := getElem?_set_cases present there
    · exact onCourse other task present
    · exact onCourse other found before
  | settle position task crash present phase through first =>
    show found.OnCourse conditions (lost other ++ [])
    rw [nothing]
    obtain ⟨rfl, rfl⟩ | ⟨-, before⟩ := getElem?_set_cases present there
    · exact Task.onCourse_failCrashed (kept.travels other task present) phase
        (onCourse other task present)
    · exact onCourse other found before
  | cancel free => cases uncut

/-- A run that is not cancelled was not cancelled before. -/
theorem uncut_of_follow {moves : List RunMove} (kept : Kept conditions configurations run)
    (follows : run.follow conditions moves = some after)
    (uncut : after.calls.cancelled = false) : run.calls.cancelled = false := by
  by_contra cut
  have signal : run.calls.cancelled = true := by simpa using cut
  have halts := halts_follow kept (halts_refl conditions signal) follows
  rw [halts.signal] at uncut
  cases uncut

theorem onCourse_follow {lost : Nat → List Nat} {moves : List RunMove}
    (kept : Kept conditions configurations run) (onCourse : run.OnCourse conditions lost)
    (ordered : conditions.ordered = true)
    (calm : ∀ crash, ¬ Metric.ListCrash conditions.metrics crash)
    (follows : run.follow conditions moves = some after)
    (uncut : after.calls.cancelled = false) :
    after.OnCourse conditions fun position => lost position ++ RunMove.lostOf position moves := by
  -- The tasks that vanished so far grow with the run, so they vary along with it.
  induction moves generalizing run lost with
  | nil =>
    cases follows
    intro position task present
    show task.OnCourse conditions (lost position ++ [])
    rw [List.append_nil]
    exact onCourse position task present
  | cons move rest inductionHypothesis =>
    obtain ⟨next, moves, goesOn⟩ := Option.bind_eq_some_iff.mp follows
    have keptNext := kept_step kept moves
    have uncutNext := uncut_of_follow keptNext goesOn uncut
    have step := onCourse_stepped kept onCourse ordered calm uncutNext (stepped_of_step moves)
    intro position task present
    show task.OnCourse conditions
      (lost position ++ (move.lost position ++ RunMove.lostOf position rest))
    rw [← List.append_assoc]
    exact inductionHypothesis keptNext step goesOn position task present

end Run

/-! ### Isolation -/

/-- Reports that only differ in their durations. -/
theorem ConfigReport.eq_of_untimed {first second : ConfigReport}
    (same : { first with duration := ⟨0⟩ } = { second with duration := ⟨0⟩ }) :
    first = { second with duration := first.duration } := by
  cases first
  cases second
  simp_all

namespace Evaluator

variable {evaluator : Evaluator} {plan : Plan} {begun run : Run} {moves : List RunMove}

/-- In a run that is not cancelled, a configuration comes to what it comes to by itself. -/
theorem evaluated_of_isOver (begins : evaluator.begin plan = .ok begun)
    (follows : begun.follow (evaluator.conditions plan) moves = some run)
    (isOver : run.isOver = true) (uncut : run.calls.cancelled = false)
    (ordered : evaluator.settings.orderedOutput = true)
    (calm : ∀ crash, ¬ Metric.ListCrash plan.metrics crash) {position : Nat}
    {configuration : Configuration}
    (planned : plan.configurations[position]? = some configuration) :
    ∃ task, run.tasks[position]? = some task ∧ task.configuration = configuration ∧
      configuration.evaluated (evaluator.conditions plan) (RunMove.lostOf position moves) =
        .ok task.result := by
  have kept := kept_of_begin begins
  have keptRun := Run.kept_follow kept follows
  have start : begun.OnCourse (evaluator.conditions plan) fun _ => [] := by
    rw [eq_start_of_begin begins]
    exact Run.onCourse_start _ _ _
  have onCourse := Run.onCourse_follow kept start ordered calm follows uncut
  have there : (run.tasks.map Task.configuration)[position]? = some configuration := by
    rw [keptRun.same]
    exact planned
  rw [List.getElem?_map, Option.map_eq_some_iff] at there
  obtain ⟨task, present, rfl⟩ := there
  refine ⟨task, present, rfl, ?_⟩
  have way : task.OnCourse (evaluator.conditions plan) (RunMove.lostOf position moves) :=
    onCourse position task present
  rw [Task.OnCourse, Run.ended_of_isOver isOver present] at way
  exact way

/-- A run of one configuration has one report. -/
theorem configs_only {alone : Evaluator} {configuration : Configuration}
    (begins : alone.begin (plan.only configuration) = .ok begun)
    (follows : begun.follow (alone.conditions (plan.only configuration)) moves = some run)
    {task : Task} (present : run.tasks[0]? = some task) : run.configs = [task.report] := by
  have same := (Run.kept_follow (kept_of_begin begins) follows).same
  rw [Plan.configurations_only] at same
  obtain ⟨only, single, -⟩ := List.map_eq_singleton_iff.mp same
  rw [single] at present
  obtain rfl : only = task := Option.some.inj present
  rw [Run.configs, single, List.map_singleton]

/-- All rows of a run of one configuration are rows of this configuration. -/
theorem logOf_only {alone : Evaluator} {configuration : Configuration}
    (begins : alone.begin (plan.only configuration) = .ok begun)
    (follows : begun.follow (alone.conditions (plan.only configuration)) moves = some run) :
    run.logOf configuration.key = run.log := by
  have kept := Run.kept_follow (kept_of_begin begins) follows
  refine List.filter_eq_self.mpr fun row member => ?_
  obtain ⟨other, planned, own⟩ := (logged_of_begin begins follows).known row member
  rw [kept.same, Plan.configurations_only, List.mem_singleton] at planned
  rw [decide_eq_true_iff, ← planned]
  exact own

/-- The configurations of a run are isolated from one another. Whatever else is in a plan, and
whatever becomes of it, a configuration comes to the report and sends the rows to which it comes
when it is evaluated alone, with other sinks and under other limits on what goes on at once. The
rows are to come in the order of the queries, neither run is cancelled, no list metric crashes, and
the tasks of the same queries vanish. -/
theorem configurations_isolated {State Other : Type} (evaluator alone : Evaluator) (plan : Plan)
    (begun run : Run) (moves : List RunMove) (begins : evaluator.begin plan = .ok begun)
    (follows : begun.follow (evaluator.conditions plan) moves = some run)
    (isOver : run.isOver = true) (uncut : run.calls.cancelled = false)
    (ordered : evaluator.settings.orderedOutput = true)
    (orderedAlone : alone.settings.orderedOutput = true)
    (timeout : evaluator.settings.queryTimeout? = alone.settings.queryTimeout?)
    (calm : ∀ metric ∈ Metric.listMetrics plan.metrics, ∀ recommended reference,
      ∃ value, metric.measure recommended reference = .ok value)
    (position : Nat) (configuration : Configuration)
    (planned : plan.configurations[position]? = some configuration)
    (sink : Sink State) (state : State) (stamp : RunStamp) (sinkAlone : Sink Other)
    (stateAlone : Other) (stampAlone : RunStamp) :
    ∃ begunAlone, alone.begin (plan.only configuration) = .ok begunAlone ∧
      ∀ (runAlone : Run) (movesAlone : List RunMove),
        begunAlone.follow (alone.conditions (plan.only configuration)) movesAlone = some runAlone →
        runAlone.isOver = true → runAlone.calls.cancelled = false →
        (∀ index, .task position (.batch (.lose index)) ∈ moves ↔
          .task 0 (.batch (.lose index)) ∈ movesAlone) →
        ∃ report reportAlone,
          (evaluator.finish run sink state stamp).report.config? configuration.key = some report ∧
          (alone.finish runAlone sinkAlone stateAlone stampAlone).report.configs = [reportAlone] ∧
          report = { reportAlone with duration := report.duration } ∧
          run.logOf configuration.key = runAlone.log := by
  have quiet (crash : Crash) : ¬ Metric.ListCrash plan.metrics crash := by
    rintro ⟨metric, member, recommended, reference, crashes⟩
    obtain ⟨value, measures⟩ := calm metric member recommended reference
    rw [measures] at crashes
    cases crashes
  have beginsAlone : alone.begin (plan.only configuration) = _ :=
    begin_of_valid ((valid_of_begin begins).only configuration)
  refine ⟨_, beginsAlone, fun runAlone movesAlone followsAlone isOverAlone uncutAlone vanish => ?_⟩
  obtain ⟨task, present, same, comes⟩ :=
    evaluated_of_isOver begins follows isOver uncut ordered quiet planned
  obtain ⟨taskAlone, presentAlone, sameAlone, comesAlone⟩ :
      ∃ task, runAlone.tasks[0]? = some task ∧ task.configuration = configuration ∧
        configuration.evaluated (alone.conditions (plan.only configuration))
          (RunMove.lostOf 0 movesAlone) = .ok task.result :=
    evaluated_of_isOver beginsAlone followsAlone isOverAlone uncutAlone orderedAlone quiet rfl
  -- Both come to what the configuration comes to by itself.
  have alike : Configuration.Alike (evaluator.conditions plan)
      (alone.conditions (plan.only configuration)) :=
    ⟨rfl, rfl, rfl, timeout, ordered.trans orderedAlone.symm⟩
  have lost (index : Nat) :
      index ∈ RunMove.lostOf position moves ↔ index ∈ RunMove.lostOf 0 movesAlone :=
    RunMove.mem_lostOf.trans ((vanish index).trans RunMove.mem_lostOf.symm)
  rw [Configuration.evaluated_congr alike configuration lost, comesAlone] at comes
  obtain ⟨untimed, rows⟩ := Prod.mk.inj (Except.ok.inj comes)
  have logged := logged_of_begin begins follows
  have loggedAlone := logged_of_begin beginsAlone followsAlone
  have key : task.report.key = configuration.key :=
    (logged.owned position task present).key.trans (congrArg Configuration.key same)
  have structured := structured_of_isOver sink state stamp begins follows isOver
  refine ⟨task.report, taskAlone.report, ?_, ?_, ConfigReport.eq_of_untimed untimed.symm, ?_⟩
  · rw [← key]
    exact structured.found _ (List.mem_map_of_mem (List.mem_of_getElem? present))
  · exact configs_only beginsAlone followsAlone presentAlone
  · rw [← same, Run.logOf_of_isOver logged isOver present, ← logOf_only beginsAlone followsAlone,
      ← sameAlone, Run.logOf_of_isOver loggedAlone isOverAlone presentAlone]
    exact rows.symm

/-- A scorer that cannot be built, and another one that is as it would be without it. -/
theorem configurations_isolated_pair :
    let metrics : List Metric := [.list ⟨"size", fun _ _ => .ok (.ok 1.0)⟩]
    let plan := Plan.ofAlgorithms [⟨"b", .error ⟨"no scorer"⟩⟩, .answering "a" (.ok Plan.answer)]
      metrics
    let evaluator : Evaluator := ⟨{ orderedOutput := true }, 1, false, .empty⟩
    let only := Plan.ofAlgorithms [.answering "a" (.ok Plan.answer)] metrics
    ∃ moves begun run movesAlone begunAlone runAlone report reportAlone,
      evaluator.begin plan = .ok begun ∧
      begun.follow (evaluator.conditions plan) moves = some run ∧
      run.isOver = true ∧ run.calls.cancelled = false ∧
      evaluator.begin only = .ok begunAlone ∧
      begunAlone.follow (evaluator.conditions only) movesAlone = some runAlone ∧
      runAlone.isOver = true ∧ runAlone.calls.cancelled = false ∧
      (evaluator.finish run .memory [] default).report.config? ⟨"a", "s"⟩ = some report ∧
      (evaluator.finish runAlone .memory [] default).report.configs = [reportAlone] ∧
      report = { reportAlone with duration := report.duration } ∧
      run.logOf ⟨"a", "s"⟩ = runAlone.log := by
  intro metrics plan evaluator only
  let moves : List RunMove := [.task 0 .start, .task 1 .start, .task 0 .load, .task 1 .load,
    .task 1 (.batch .ask), .finish (1, some 0), .task 1 (.batch (.send 0)), .task 1 (.measure 1),
    .task 1 (.batch (.join 0)), .task 1 (.batch .sweep), .task 1 .flush, .task 1 .conclude,
    .task 1 (.aggregate ⟨2⟩), .settle 0, .hand 0, .hand 1]
  let movesAlone : List RunMove := [.task 0 .start, .task 0 .load, .task 0 (.batch .ask),
    .finish (0, some 0), .task 0 (.batch (.send 0)), .task 0 (.batch (.join 0)),
    .task 0 (.batch .sweep), .task 0 (.measure 1), .task 0 .flush, .task 0 .conclude,
    .task 0 (.aggregate ⟨1⟩), .hand 0]
  let begun : Run := .start (evaluator.conditions plan) false plan.configurations
  let begunAlone : Run := .start (evaluator.conditions only) false only.configurations
  have ends : (begun.follow (evaluator.conditions plan) moves).map
      (fun run => (run.isOver, run.calls.cancelled)) = some (true, false) := by decide +kernel
  have endsAlone : (begunAlone.follow (evaluator.conditions only) movesAlone).map
      (fun run => (run.isOver, run.calls.cancelled)) = some (true, false) := by decide +kernel
  obtain ⟨run, follows, both⟩ := Option.map_eq_some_iff.mp ends
  obtain ⟨runAlone, followsAlone, bothAlone⟩ := Option.map_eq_some_iff.mp endsAlone
  obtain ⟨isOver, uncut⟩ := Prod.mk.inj both
  obtain ⟨isOverAlone, uncutAlone⟩ := Prod.mk.inj bothAlone
  have calm : ∀ metric ∈ Metric.listMetrics plan.metrics, ∀ recommended reference,
      ∃ value, metric.measure recommended reference = .ok value := by
    intro metric member recommended reference
    obtain rfl := List.mem_singleton.mp member
    exact ⟨_, rfl⟩
  obtain ⟨_, begins, isolated⟩ := configurations_isolated evaluator evaluator plan begun run moves
    rfl follows isOver uncut rfl rfl rfl calm 1 _ rfl .memory [] default .memory [] default
  cases begins
  obtain ⟨report, reportAlone, found, single, same, log⟩ :=
    isolated runAlone movesAlone followsAlone isOverAlone uncutAlone (by simp [moves, movesAlone])
  exact ⟨moves, begun, run, movesAlone, begunAlone, runAlone, report, reportAlone, rfl, follows,
    isOver, uncut, rfl, followsAlone, isOverAlone, uncutAlone, found, single, same, log⟩

end Evaluator

end Holdout
