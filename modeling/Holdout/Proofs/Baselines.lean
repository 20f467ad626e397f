/-
This file shows that the baselines never fail in a run. Whatever the training data and the test
table are, the candidates of a query are distinct items of the catalog, a baseline scores all of
them, and the scores can be ranked; so every query has its list. What a run can do to a
configuration besides is to be cancelled, to let a task vanish, or to crash a metric.
-/

import Holdout.Proofs.HeldOut
import Holdout.Proofs.Isolation
import Holdout.Proofs.ItemList.Ranking
import Holdout.Proofs.Popularity
import Holdout.Proofs.Report
import Holdout.Scorer.Popularity
import Holdout.Scorer.Random

namespace Holdout

/-! ### Candidates -/

namespace Conditions

variable (conditions : Conditions) (split : Split)

/-- The candidates of a test query are distinct items of the catalog, in one mode without what the
query has met. -/
theorem candidates_spec {query : Query} (tested : query ∈ split.queries) :
    let candidates := (conditions.batch split).candidatesOf query
    candidates.ids.Nodup ∧ ∀ item, item ∈ candidates.ids ↔
      split.train.Offers item ∧ (conditions.mode = .unrated → ¬ split.train.Met query.id item) := by
  obtain ⟨name, named, rfl⟩ := List.mem_map.mp tested
  have valid := split.train.valid_catalog
  simp only [Batch.candidatesOf, batch, CandidatePool.select, CandidatePool.ofDataset]
  cases conditions.mode with
  | all => exact ⟨valid.distinct, fun item => by simp⟩
  | unrated =>
    refine ⟨(ItemList.valid_without _ valid).distinct, fun item => ?_⟩
    simp [ItemList.without, ItemList.contains]

end Conditions

/-! ### Scores for all candidates -/

/-- Scoring that always gives all candidates a score, as long as they are distinct items of some
training data. -/
def Scoring.IsTotal (score : Scoring) (train : Dataset) : Prop :=
  ∀ query candidates, candidates.ids.Nodup → (∀ item ∈ candidates.ids, train.Offers item) →
    ∃ pairs list, pairs.map Prod.fst = candidates.ids ∧ list.Valid ∧ list.pairs? = some pairs ∧
      score query candidates = .immediate (.ok list)

namespace Popularity

theorem isTotal_scoring (train : Dataset) : (scoring train).IsTotal train := by
  intro query candidates distinct offered
  have all : (counted train candidates).map Prod.fst = candidates.ids := by
    rw [counted, List.map_map, List.filter_eq_self.mpr fun item member => ?_]
    · exact List.map_id' _
    · simpa using Dataset.countOf_ne_zero_iff.mpr (offered item member)
  obtain ⟨list, scores, given⟩ := ItemList.exists_scored (all ▸ distinct)
  exact ⟨_, list, all, ItemList.valid_scored scores, given, by rw [scoring, scores]; rfl⟩

end Popularity

namespace Random

theorem length_unitFloats : ∀ words : List UInt32,
    (unitFloats words).length = words.length / 2
  | [] | [_] => by simp [unitFloats]
  | _ :: _ :: rest => by
    rw [unitFloats, List.length_cons, length_unitFloats rest, List.length_cons, List.length_cons]
    omega

theorem length_streamWords (key : List UInt32) (blocks : Nat) :
    (streamWords key blocks).length = 16 * blocks := by
  rw [streamWords, List.length_flatMap]
  simp [blockWords, Nat.mul_comm]

theorem length_numbers (seed : UInt64) (count : Nat) : (numbers seed count).length = count := by
  rw [numbers, List.length_take, length_unitFloats, length_streamWords]
  omega

theorem isTotal_scoring (seed : UInt64) (train : Dataset) : (scoring seed).IsTotal train := by
  intro query candidates distinct offered
  have all : (drawn seed query.id candidates).map Prod.fst = candidates.ids :=
    List.map_fst_zip (by rw [length_numbers]; exact Nat.le_refl _)
  obtain ⟨list, scores, given⟩ := ItemList.exists_scored (all ▸ distinct)
  exact ⟨_, list, all, ItemList.valid_scored scores, given, by rw [scoring, scores]; rfl⟩

end Random

/-- An algorithm whose scorer is one of the baselines. -/
inductive Algorithm.IsBaseline (algorithm : Algorithm) : Prop where
  | popularity (built : algorithm.build = .ok Popularity.scorer)
  | random (seed : UInt64) (built : algorithm.build = .ok (Random.scorer seed))

namespace Algorithm.IsBaseline

variable {algorithm : Algorithm}

/-- A baseline is built and trained without fail. -/
theorem trains (baseline : algorithm.IsBaseline) :
    ∃ scorer, algorithm.build = .ok scorer ∧
      ∀ train, ∃ score, (scorer.train train).result = .ok (.ok score) := by
  cases baseline with
  | popularity built => exact ⟨_, built, fun train => ⟨_, rfl⟩⟩
  | random seed built => exact ⟨_, built, fun train => ⟨_, rfl⟩⟩

/-- When it comes to scoring, a baseline gives all candidates a score. -/
theorem isTotal {configuration : Configuration} {split : Split} {score : Scoring}
    (baseline : configuration.algorithm.IsBaseline) (ready : configuration.Ready split score) :
    score.IsTotal split.train := by
  cases ready with
  | untrained scorer loaded built ready =>
    cases baseline with
    | popularity same =>
      cases same.symm.trans built
      cases ready
    | random seed same =>
      cases same.symm.trans built
      exact Random.isTotal_scoring seed split.train
  | trained scorer score loaded built needed result =>
    cases baseline with
    | popularity same =>
      cases same.symm.trans built
      cases result
      exact Popularity.isTotal_scoring split.train
    | random seed same =>
      cases same.symm.trans built
      cases needed

end Algorithm.IsBaseline

/-! ### Lists for all queries -/

/-- A list for a test query that holds as many of its candidates as it may. -/
structure Serves (conditions : Conditions) (split : Split) (query : Query) (list : ItemList) :
    Prop where
  ordered : list.ordered = true
  distinct : list.ids.Nodup
  size : list.size = conditions.limit.elim ((conditions.batch split).candidatesOf query).size
    (min · ((conditions.batch split).candidatesOf query).size)
  offered : ∀ item ∈ list.ids, split.train.Offers item
  fresh : conditions.mode = .unrated → ∀ item ∈ list.ids, ¬ split.train.Met query.id item

/-- Scored candidates can be ranked. -/
theorem serves_of_pairs {conditions : Conditions} {split : Split} {query : Query}
    (tested : query ∈ split.queries) {pairs : List (ItemId × Float)} {list : ItemList}
    (all : pairs.map Prod.fst = ((conditions.batch split).candidatesOf query).ids)
    (valid : list.Valid) (given : list.pairs? = some pairs) :
    ∃ ranking, list.rankTop conditions.limit = .ok ranking ∧
      Serves conditions split query ranking := by
  obtain ⟨distinct, candidates⟩ := conditions.candidates_spec split tested
  have ranks : list.rankTop conditions.limit = .ok _ :=
    ItemList.rankTop_eq_ok_iff.mpr ⟨pairs, given, rfl⟩
  have perm := pairs.mergeSort_perm ItemList.precedes
  have kept (item : ItemId)
      (member : item ∈ (ItemList.cut conditions.limit (pairs.mergeSort ItemList.precedes)).map
        Prod.fst) : item ∈ ((conditions.batch split).candidatesOf query).ids := by
    rw [← all, ← (perm.map Prod.fst).mem_iff]
    exact ((ItemList.cut_sublist _ _).map Prod.fst).subset member
  refine ⟨_, ranks, rfl, (ItemList.valid_rankTop valid ranks).distinct, ?_,
    fun item member => ((candidates item).mp (kept item member)).1,
    fun unrated item member => ((candidates item).mp (kept item member)).2 unrated⟩
  have size : pairs.length = ((conditions.batch split).candidatesOf query).size := by
    rw [ItemList.size, ← all, List.length_map]
  show (List.map Prod.fst _).length = _
  rw [List.length_map, ItemList.length_cut, perm.length_eq, size]

/-- A query has its list if its candidates are scored in time. -/
theorem serves_of_isTotal {conditions : Conditions} {split : Split} {score : Scoring}
    (total : score.IsTotal split.train) (limitless : conditions.timeout = none) {query : Query}
    (tested : query ∈ split.queries) :
    ∃ list, (conditions.batch split).scoreOne score query = .ok list ∧
      Serves conditions split query list := by
  obtain ⟨distinct, candidates⟩ := conditions.candidates_spec split tested
  obtain ⟨pairs, scored, all, valid, given, answers⟩ :=
    total query _ distinct fun item member => ((candidates item).mp member).1
  obtain ⟨ranking, ranks, serves⟩ := serves_of_pairs tested all valid given
  refine ⟨ranking, ?_, serves⟩
  have inTime : (conditions.batch split).overrun? score query = none := by
    simp [Batch.overrun?, Conditions.batch, limitless]
  have answered : (conditions.batch split).call score query = .immediate (.ok scored) := answers
  simp only [Batch.scoreOne, inTime, answered, Work.immediate, Batch.ranked]
  show Except.mapError _ (scored.rankTop conditions.limit) = _
  rw [ranks]
  rfl

/-! ### Tasks that vanish -/

namespace Task

variable {conditions : Conditions} {position : Nat} {calls later : Calls Slot}
  {task after : Task} {move : TaskMove} {vanished : Nat → Prop}

/-- What is known of a configuration of which tasks vanish only where they are said to. -/
def Unbroken (conditions : Conditions) (vanished : Nat → Prop) (task : Task) : Prop :=
  match task.phase with
  | .scoring _ _ progress _ _ => ∀ index ∈ progress.lost, vanished index
  | .scored gathered => ∃ split score progress sent,
      Measured conditions task.configuration split score progress sent gathered ∧
      progress.spawned.length = progress.next ∧ (∀ index ∈ progress.lost, vanished index) ∧
      task.report.key = task.configuration.key ∧
      task.report.queries = split.queries.length ∧ task.report.scored = gathered.scored ∧
      task.report.failed = gathered.failed ∧ task.rows = gathered.rows
  | .ended => task.report.state = .aggregated → ∃ split score outcomes,
      AggregatedRows conditions task.configuration task.report task.rows split score outcomes ∧
      ∀ outcome ∈ outcomes, ∃ query, split.queries[outcome.index]? = some query ∧
        outcome.query = query.id ∧
        (outcome.result = (conditions.batch split).scoreOne score query ∨
          outcome.result = .error Batch.aborted ∧ vanished outcome.index)
  | _ => True

theorem unbroken_beginScoring {split : Split} {score : Scoring} :
    (task.beginScoring split score).Unbroken conditions vanished := by
  intro index member
  cases member

theorem unbroken_beginTraining {split : Split} :
    (task.beginTraining split).Unbroken conditions vanished := by
  unfold beginTraining
  split
  · trivial
  split
  · trivial
  · exact unbroken_beginScoring

theorem unbroken_moved (travels : task.Travels conditions) (linked : task.Linked position calls)
    (unbroken : task.Unbroken conditions vanished)
    (lost : ∀ index, move = .batch (.lose index) → vanished index)
    (moved : Moved conditions position calls task move later after) :
    after.Unbroken conditions vanished := by
  obtain ⟨configuration, before, report, rows, handed, announced⟩ := task
  have travelled : Travelled conditions configuration before report rows := travels
  cases moved with
  | begins | trains | waits => trivial
  | refuses | loadingCrashes | loadingFails | trainingRefused | trainingCrashes | trainingFails
  | concludesCrash | concludesCancelled | aggregatingCrashes => rintro ⟨⟩
  | loads => exact unbroken_beginTraining
  | fits => exact unbroken_beginScoring
  | batches split score progress queue left measurer move advance phase advances sends =>
    cases phase
    intro index member
    rw [Batch.lost_of_advanced (Batch.advanced_of_advance advances), List.mem_append] at member
    rcases member with earlier | now
    · exact unbroken index earlier
    · exact lost index (TaskMove.mem_lost.mp now)
  | measures split score progress queue reorder next gathered part count phase
  | measuringCrashes split score progress queue reorder gathered count crash phase
  | flushes split score progress reorder gathered part phase
  | flushingCrashes split score progress reorder gathered crash phase =>
    cases phase
    exact unbroken
  | concludes split score progress queue gathered phase done signal =>
    unfold Linked at linked
    cases phase
    cases travelled with
    | scoring _ _ _ _ sent _ _ ready accounted taken =>
      obtain ⟨rfl, measured⟩ := measured_of_taken ready accounted taken
      exact ⟨split, score, progress, sent, measured, linked.1.everyone accounted signal, unbroken,
        rfl, rfl, rfl, rfl, rfl⟩
  | aggregates gathered analysis takes phase measures =>
    cases phase
    obtain ⟨split, score, progress, sent, measured, everyone, vanishes, key, queries, scored,
      failed, all⟩ := unbroken
    intro
    simp only at key queries scored failed all
    subst all
    let last : ConfigReport := { report with
      state := .aggregated, duration := takes, summary := analysis.summary }
    obtain ⟨outcomes, perm, whole⟩ :=
      aggregatedRows_of_measured last measured everyone measures queries scored failed
    refine ⟨split, score, outcomes, ?_, fun outcome member => ?_⟩
    · simpa only [configuration_setState, report_setState, rows_setState, key, last] using whole
    obtain ⟨query, present, name, result⟩ :=
      told_of_measured measured everyone outcome (perm.mem_iff.mp member)
    exact ⟨query, present, name, result.imp_right fun both => ⟨both.1, vanishes _ both.2⟩⟩

end Task

namespace Run

variable {conditions : Conditions} {configurations : List Configuration} {run after : Run}
  {position : Nat}

/-- A move of a run leaves a configuration unbroken, if it makes no task of it vanish that is not
said to. -/
theorem unbroken_step {vanished : Nat → Prop} {move : RunMove}
    (kept : Kept conditions configurations run)
    (unbroken : ∀ task, run.tasks[position]? = some task → task.Unbroken conditions vanished)
    (lost : ∀ index, move = .task position (.batch (.lose index)) → vanished index)
    (moves : run.step conditions move = some after) :
    ∀ task, after.tasks[position]? = some task → task.Unbroken conditions vanished := by
  intro found there
  cases stepped_of_step moves with
  | task other move task later calls present admitted moved =>
    obtain ⟨rfl, rfl⟩ | ⟨different, before⟩ := getElem?_set_cases present there
    · exact Task.unbroken_moved (kept.travels position task present)
        (kept.linked position task present) (unbroken task present)
        (fun index same => lost index (congrArg _ same)) moved
    · exact unbroken found before
  | hand other task row present next =>
    obtain ⟨rfl, rfl⟩ | ⟨-, before⟩ := getElem?_set_cases present there
    · exact unbroken task present
    · exact unbroken found before
  | settle other task crash present phase through first =>
    obtain ⟨rfl, rfl⟩ | ⟨-, before⟩ := getElem?_set_cases present there
    · rintro ⟨⟩
    · exact unbroken found before
  | finish | cancel => exact unbroken found there

/-- No task of a configuration vanishes but those that the moves of the run make vanish. -/
theorem unbroken_follow {moves : List RunMove} (kept : Kept conditions configurations run)
    (start : ∀ task, run.tasks[position]? = some task → task.phase = .pending)
    (follows : run.follow conditions moves = some after) :
    ∀ task, after.tasks[position]? = some task → task.Unbroken conditions fun index =>
      .task position (.batch (.lose index)) ∈ moves := by
  refine (Steps.holds_follow (fun now => Kept conditions configurations now ∧
    ∀ task, now.tasks[position]? = some task → task.Unbroken conditions fun index =>
      .task position (.batch (.lose index)) ∈ moves) (fun member holds moves => ?_)
    ⟨kept, fun task present => ?_⟩ follows).2
  · exact ⟨kept_step holds.1 moves,
      unbroken_step holds.1 holds.2 (fun index same => same ▸ member) moves⟩
  · rw [Task.Unbroken, start task present]
    trivial

end Run

/-! ### No failure -/

/-- Metrics that never crash have no crash of a list metric. -/
theorem Metric.Calm.not_listCrash {metrics : List Metric} (calm : Metric.Calm metrics)
    (crash : Crash) : ¬ Metric.ListCrash metrics crash := by
  rintro ⟨metric, member, recommended, reference, crashes⟩
  obtain ⟨value, measures⟩ := calm.lists metric member recommended reference
  rw [measures] at crashes
  cases crashes

theorem Metric.Calm.not_globalCrash {metrics : List Metric} (calm : Metric.Calm metrics)
    (crash : Crash) : ¬ Metric.GlobalCrash metrics crash := by
  rintro ⟨metric, member, recommended, references, crashes⟩
  obtain ⟨value, measures⟩ := calm.globals metric member recommended references
  rw [measures] at crashes
  cases crashes

/-- A configuration with a baseline has no reason to fail, unless the run is cancelled. -/
theorem Task.not_fails_of_baseline {conditions : Conditions} {calls : Calls Slot} {task : Task}
    {split : Split} (loaded : task.configuration.source.load.result = .ok (.ok split))
    (baseline : task.configuration.algorithm.IsBaseline) (calm : Metric.Calm conditions.metrics)
    (uncut : calls.cancelled = false) (failure : ConfigFailure) :
    ¬ task.Fails conditions calls failure := by
  obtain ⟨scorer, built, trains⟩ := baseline.trains
  intro fails
  cases fails with
  | notStarted phase signal | noSlot _ _ _ phase wanted signal
  | cutOff _ _ _ _ _ phase ready signal =>
    rw [signal] at uncut
    cases uncut
  | loadingCrashed crash phase result | notLoaded error phase result =>
    rw [loaded] at result
    cases result
  | notBuilt other crash phase _ result =>
    rw [built] at result
    cases result
  | trainingCrashed other scorer crash phase wanted result
  | notTrained other scorer error phase wanted result =>
    cases built.symm.trans wanted.built
    obtain ⟨score, trained⟩ := trains other.train
    rw [trained] at result
    cases result
  | listMetricCrashed _ _ _ _ crash phase ready metric => exact calm.not_listCrash crash metric
  | globalMetricCrashed _ crash phase ready metric => exact calm.not_globalCrash crash metric

/-- What becomes of a configuration with a baseline, of which some tasks may have vanished: it is
aggregated, and every query has the list that it is due, or its task vanished. -/
structure Unfailing (conditions : Conditions) (configuration : Configuration)
    (vanished : Nat → Prop) (report : ConfigReport) (rows : List Row) (split : Split)
    (outcomes : List Outcome) : Prop where
  state : report.state = .aggregated
  /-- Every test query has one outcome, and the rows and counts are those of the outcomes. -/
  accounted : ∃ score, AggregatedRows conditions configuration report rows split score outcomes
  served : ∀ outcome ∈ outcomes, ∃ query ∈ split.queries, outcome.query = query.id ∧
    ((∃ list, outcome.result = .ok list ∧ Serves conditions split query list) ∨
      outcome.result = .error Batch.aborted ∧ vanished outcome.index)
  /-- Without tasks that vanish, no query fails. -/
  whole : (∀ index, ¬ vanished index) → report.scored = report.queries ∧ report.failed = 0 ∧
    ∀ row ∈ rows, row.kind ≠ .queryFailure

/-- If all outcomes have a list, no row is that of a failed query. -/
theorem AggregatedRows.unfailing {conditions : Conditions} {configuration : Configuration}
    {report : ConfigReport} {rows : List Row} {split : Split} {score : Scoring}
    {outcomes : List Outcome}
    (whole : AggregatedRows conditions configuration report rows split score outcomes)
    (all : ∀ outcome ∈ outcomes, outcome.isScored = true) :
    report.scored = report.queries ∧ report.failed = 0 ∧
      ∀ row ∈ rows, row.kind ≠ .queryFailure := by
  have none : report.failed = 0 := by
    rw [whole.failed, List.countP_eq_zero]
    exact fun outcome member => by simp [all outcome member]
  have total := whole.total
  refine ⟨by omega, none, fun row member => ?_⟩
  have heading := List.mem_map_of_mem (f := Row.heading) member
  rw [whole.headings, List.mem_append] at heading
  rcases heading with ofQuery | global
  · obtain ⟨outcome, inside, here⟩ := List.mem_flatMap.mp ofQuery
    rw [Outcome.headings, if_pos (all outcome inside)] at here
    obtain ⟨metric, -, same⟩ := List.mem_map.mp here
    have kind : row.kind = .listMetric := (congrArg Prod.fst same).symm
    rw [kind]
    decide
  · obtain ⟨metric, -, same⟩ := List.mem_map.mp global
    have kind : row.kind = .globalMetric := (congrArg Prod.fst same).symm
    rw [kind]
    decide

theorem unfailing_of_unbroken {conditions : Conditions} {vanished : Nat → Prop} {task : Task}
    {split : Split} (unbroken : task.Unbroken conditions vanished) (phase : task.phase = .ended)
    (state : task.report.state = .aggregated)
    (loaded : task.configuration.source.load.result = .ok (.ok split))
    (baseline : task.configuration.algorithm.IsBaseline) (limitless : conditions.timeout = none) :
    ∃ outcomes, Unfailing conditions task.configuration vanished task.report task.rows split
      outcomes := by
  rw [Task.Unbroken, phase] at unbroken
  obtain ⟨other, score, outcomes, whole, told⟩ := unbroken state
  have same := whole.ready.loaded.symm.trans loaded
  obtain rfl : other = split := Except.ok.inj (Except.ok.inj same)
  have total := baseline.isTotal whole.ready
  have served (outcome : Outcome) (member : outcome ∈ outcomes) :
      ∃ query ∈ other.queries, outcome.query = query.id ∧
        ((∃ list, outcome.result = .ok list ∧ Serves conditions other query list) ∨
          outcome.result = .error Batch.aborted ∧ vanished outcome.index) := by
    obtain ⟨query, present, name, result⟩ := told outcome member
    have tested := List.mem_of_getElem? present
    obtain ⟨list, scores, serves⟩ := serves_of_isTotal total limitless tested
    exact ⟨query, tested, name, result.imp_left fun same => ⟨list, same.trans scores, serves⟩⟩
  refine ⟨outcomes, state, ⟨score, whole⟩, served, fun none => ?_⟩
  refine whole.unfailing fun outcome member => ?_
  obtain ⟨query, -, -, ⟨list, result, -⟩ | ⟨-, gone⟩⟩ := served outcome member
  · simp [Outcome.isScored, result, Except.isOk, Except.toBool]
  · exact absurd gone (none _)

namespace Evaluator

/-- A configuration with a baseline has not failed at any moment of a run that is not cancelled. -/
theorem not_failed_of_baseline {evaluator : Evaluator} {plan : Plan} {begun run : Run}
    {moves : List RunMove} (begins : evaluator.begin plan = .ok begun)
    (follows : begun.follow (evaluator.conditions plan) moves = some run)
    (uncut : run.calls.cancelled = false) (calm : Metric.Calm plan.metrics) {position : Nat}
    {task : Task} (present : run.tasks[position]? = some task) {split : Split}
    (loaded : task.configuration.source.load.result = .ok (.ok split))
    (baseline : task.configuration.algorithm.IsBaseline) :
    task.report.state.isFailed = false := by
  refine Bool.eq_false_iff.mpr fun failed => ?_
  have keptBegun := kept_of_begin begins
  have kept := Run.kept_follow keptBegun follows
  obtain ⟨first, atFirst, -⟩ := Run.exists_task_of_kept kept keptBegun present
  have goesOn : first.report.state.isFailed = false := by
    rw [eq_start_of_begin begins, Run.start, List.getElem?_map] at atFirst
    obtain ⟨configuration, -, rfl⟩ := Option.map_eq_some_iff.mp atFirst
    rfl
  obtain ⟨before, failing, failure, failsIn, -⟩ :=
    Run.exists_failsIn keptBegun atFirst goesOn follows present failed
  obtain ⟨early, move, late, after, -, rfl, reached, -⟩ := failsIn.moment
  obtain ⟨_, first, goesOn⟩ := Steps.follow_append_eq_some.mp follows
  cases first.symm.trans reached
  have keptBefore := Run.kept_follow keptBegun reached
  obtain ⟨last, there, same⟩ := Run.exists_task_of_kept keptBefore kept failsIn.present
  obtain rfl : last = task := Option.some.inj (there.symm.trans present)
  rw [same] at loaded baseline
  exact Task.not_fails_of_baseline loaded baseline calm
    (Run.uncut_of_follow keptBefore goesOn uncut) failure failsIn.fails

/-- In a run of a valid plan with metrics that do not crash, which is neither cancelled nor limits
the time of a query, a configuration with a baseline does not fail, whatever its split is. When it
is through it is aggregated, and every query has a ranking of as many of its candidates as it may
hold. -/
theorem baselines_never_fail (evaluator : Evaluator) (plan : Plan) (begun run : Run)
    (moves : List RunMove) (usable : evaluator.settings.fault? = none)
    (begins : evaluator.begin plan = .ok begun)
    (follows : begun.follow (evaluator.conditions plan) moves = some run)
    (uncut : run.calls.cancelled = false) (limitless : evaluator.settings.queryTimeout? = none)
    (calm : Metric.Calm plan.metrics) (position : Nat) (configuration : Configuration)
    (planned : plan.configurations[position]? = some configuration) (split : Split)
    (loaded : configuration.source.load.result = .ok (.ok split))
    (baseline : configuration.algorithm.IsBaseline) :
    evaluator.Completes plan ∧ ∃ task, run.tasks[position]? = some task ∧
      task.report.state.isFailed = false ∧
      (run.isOver = true → ∃ outcomes, Unfailing (evaluator.conditions plan) configuration
        (fun index => .task position (.batch (.lose index)) ∈ moves) task.report task.rows split
        outcomes) := by
  have keptBegun := kept_of_begin begins
  have kept := Run.kept_follow keptBegun follows
  have there : (run.tasks.map Task.configuration)[position]? = some configuration := by
    rw [kept.same]
    exact planned
  rw [List.getElem?_map, Option.map_eq_some_iff] at there
  obtain ⟨task, present, rfl⟩ := there
  have unfailed := not_failed_of_baseline begins follows uncut calm present loaded baseline
  refine ⟨completes_of_usable usable plan, task, present, unfailed, fun isOver => ?_⟩
  have pending (first : Task) (atFirst : begun.tasks[position]? = some first) :
      first.phase = .pending := by
    rw [eq_start_of_begin begins, Run.start, List.getElem?_map] at atFirst
    obtain ⟨configuration, -, rfl⟩ := Option.map_eq_some_iff.mp atFirst
    rfl
  have unbroken := Run.unbroken_follow keptBegun pending follows task present
  have ended := Run.ended_of_isOver isOver present
  have state : task.report.state = .aggregated := by
    have member := List.mem_map_of_mem (f := Task.report) (List.mem_of_getElem? present)
    refine (Run.ended_of_mem_configs kept isOver member).resolve_right fun failed => ?_
    rw [unfailed] at failed
    cases failed.1
  exact unfailing_of_unbroken unbroken ended state loaded baseline limitless

/-- Popularity on a split with one test query, which has met one of two items. -/
theorem baselines_never_fail_popularity :
    let train : Dataset := ⟨[⟨"u", "a", none⟩, ⟨"v", "b", none⟩]⟩
    let test : Table ItemList := ⟨[("u", ⟨["b"], none, none, false⟩)], by decide⟩
    let plan : Plan := ⟨[⟨"pop", .ok Popularity.scorer⟩], [.ofSplit ⟨"s", train, test⟩],
      [.list ⟨"size", fun _ _ => .ok (.ok 1.0)⟩], some 3, .unrated⟩
    let evaluator : Evaluator := ⟨{}, 1, false, .empty⟩
    ∃ begun run moves task outcomes, evaluator.begin plan = .ok begun ∧
      begun.follow (evaluator.conditions plan) moves = some run ∧ run.isOver = true ∧
      run.tasks[0]? = some task ∧ task.report.state.isFailed = false ∧
      Unfailing (evaluator.conditions plan) ⟨⟨"pop", .ok Popularity.scorer⟩,
        .ofSplit ⟨"s", train, test⟩⟩ (fun index => .task 0 (.batch (.lose index)) ∈ moves)
        task.report task.rows ⟨"s", train, test⟩ outcomes := by
  intro train test plan evaluator
  let conditions := evaluator.conditions plan
  let split : Split := ⟨"s", train, test⟩
  let query : Query := ⟨"u", some (train.historyOf "u"), none⟩
  let early : List RunMove := [.task 0 .start, .task 0 .load, .task 0 .ask, .finish (0, none),
    .task 0 .fit, .task 0 (.batch .ask), .finish (0, some 0), .task 0 (.batch (.send 0))]
  let late : List RunMove := [.task 0 (.measure 1), .task 0 (.batch (.join 0)),
    .task 0 (.batch .sweep), .task 0 .flush, .task 0 .conclude, .task 0 (.aggregate ⟨1⟩), .hand 0]
  let begun : Run := .start conditions false plan.configurations
  let scoring (result : QueryResult) : Run := ⟨.ofSize 1 false,
    [⟨⟨⟨"pop", .ok Popularity.scorer⟩, .ofSplit split⟩,
      .scoring split (Popularity.scoring train) { next := 1, spawned := [0], ended := [0] }
        [⟨0, "u", result⟩] (.working .start {}),
      { ConfigReport.fresh ⟨"pop", "s"⟩ with state := .scoring, queries := 1 }, [], 0,
      [(⟨"pop", "s"⟩, .training), (⟨"pop", "s"⟩, .scoring)]⟩], [],
    ⟨[(⟨"pop", "s"⟩, .scoring)], by decide⟩⟩
  -- The catalog is sorted, which no evaluation unfolds; so the list of the query is named first.
  obtain ⟨list, scores, -⟩ : ∃ list,
      (conditions.batch split).scoreOne (Popularity.scoring train) query = .ok list ∧
        Serves conditions split query list :=
    serves_of_isTotal (Popularity.isTotal_scoring train) rfl List.mem_cons_self
  have begins : begun.follow conditions early = some (scoring
      ((conditions.batch split).scoreOne (Popularity.scoring train) query)) := rfl
  rw [scores] at begins
  have follows := Steps.follow_append_eq_some.mpr ⟨_, begins, (rfl : Run.follow _ _ late = some _)⟩
  have calm : Metric.Calm plan.metrics := by
    refine ⟨fun metric member recommended reference => ?_, by simp [plan, Metric.globalMetrics]⟩
    obtain rfl := List.mem_singleton.mp member
    exact ⟨_, rfl⟩
  obtain ⟨-, task, present, unfailed, whole⟩ := baselines_never_fail evaluator plan begun _ _
    rfl rfl follows rfl rfl calm 0 _ rfl split rfl (.popularity rfl)
  obtain ⟨outcomes, unfailing⟩ := whole rfl
  exact ⟨begun, _, _, task, outcomes, rfl, follows, rfl, present, unfailed, unfailing⟩

end Evaluator

end Holdout
