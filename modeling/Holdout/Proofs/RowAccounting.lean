/-
This file proves which rows a configuration sends. If it is aggregated, there are for every test
query the rows of the list metrics or the one row of a failure, then the rows of the global metrics,
and its counts are those of the queries of the two sorts. If it fails, the row of the failure comes
last, no row of a global metric is there, and nothing else is there if no query was scored yet.
-/

import Holdout.Proofs.Run
import Holdout.Proofs.Streaming

namespace Holdout

/-! ### Rows of a configuration -/

/-- Whether a row is one of a configuration. -/
def Row.IsOf (key : ConfigKey) (row : Row) : Prop :=
  row.algorithm = key.algorithm ∧ row.split = key.split

theorem Row.isOf_ofMetric (key : ConfigKey) (query : Option String) (label : String)
    (value : MetricValue) : (Row.ofMetric key query label value).IsOf key := by
  cases value <;> exact ⟨rfl, rfl⟩

theorem Measuring.isOf_of_gatherAll {measuring : Measuring} {outcomes : List Outcome}
    {gathered : Gathered} (gathers : measuring.gatherAll outcomes = .ok gathered) :
    ∀ row ∈ gathered.rows, row.IsOf measuring.key := by
  obtain ⟨⟨blocks, each, rows⟩, -⟩ := measuring.blocks_of_gatherAll gathers
  intro row member
  rw [rows] at member
  clear rows gathers
  induction each with
  | nil => cases member
  | cons block _ inductionHypothesis =>
    rcases List.mem_append.mp member with here | later
    · cases block with
      | scored list values result measured =>
        obtain ⟨entry, -, rfl⟩ := List.mem_map.mp here
        exact Row.isOf_ofMetric _ _ _ _
      | failed error result =>
        obtain rfl := List.mem_singleton.mp here
        exact ⟨rfl, rfl⟩
    · exact inductionHypothesis later

theorem Row.kind_of_query {row : Row} (about : row.query.isSome = true) :
    row.kind = .listMetric ∨ row.kind = .queryFailure := by
  obtain ⟨query, equal⟩ := Option.isSome_iff_exists.mp about
  cases metric : row.metric with
  | none => exact Or.inr (by simp only [Row.kind, equal, metric])
  | some label => exact Or.inl (by simp only [Row.kind, equal, metric])

/-! ### What was measured in full -/

/-- What is known of the outcomes of a configuration all of whose queries have one: in the order in
which their rows went out, there is one for every test query. -/
structure Tallied (conditions : Conditions) (configuration : Configuration) (split : Split)
    (score : Scoring) (progress : Batch.Progress) (outcomes : List Outcome) (gathered : Gathered) :
    Prop where
  ready : configuration.Ready split score
  /-- Every test query has one outcome. -/
  once : (outcomes.map Outcome.query).Perm split.test.names
  /-- It is the outcome that the query deserves. -/
  told : ∀ outcome ∈ outcomes, ∃ query, split.queries[outcome.index]? = some query ∧
    outcome.query = query.id ∧
    outcome.result = (conditions.batch split).deserved score progress outcome.index query
  /-- The rows are those of the outcomes. -/
  blocks : ∃ blocks,
    List.Forall₂ (conditions.measuring configuration.key split).Block outcomes blocks ∧
      gathered.rows = blocks.flatten
  headings : gathered.rows.map Row.heading = outcomes.flatMap (Outcome.headings conditions.metrics)
  own : ∀ row ∈ gathered.rows, row.IsOf configuration.key
  scored : gathered.scored = outcomes.countP Outcome.isScored
  failed : gathered.failed = outcomes.countP fun outcome => !outcome.isScored
  total : gathered.scored + gathered.failed = split.test.size

theorem tallied_of_measured {conditions : Conditions} {configuration : Configuration}
    {split : Split} {score : Scoring} {progress : Batch.Progress} {sent : List Outcome}
    {gathered : Gathered}
    (measured : Task.Measured conditions configuration split score progress sent gathered) :
    ∃ outcomes, outcomes.Perm sent ∧
      Tallied conditions configuration split score progress outcomes gathered := by
  obtain ⟨chunks, rfl, drains⟩ := measured.drained
  have covers := measured.accounted.complete measured.done
  have perm := (conditions.measuring configuration.key split).perm_arranged covers.distinct
  rw [Measuring.drain_eq] at drains
  have coversArranged := covers.of_perm perm
  obtain ⟨blocks, scored, total⟩ := Measuring.blocks_of_gatherAll _ drains
  refine ⟨_, perm, measured.ready, ?_, fun outcome member => ?_, blocks,
    Measuring.headings_of_gatherAll drains, Measuring.isOf_of_gatherAll drains, scored, ?_, ?_⟩
  · rw [← Split.map_id_queries]
    exact coversArranged.names
  · exact measured.accounted.faithful outcome (perm.mem_iff.mp member)
  · have both := List.length_eq_countP_add_countP Outcome.isScored
      (l := (conditions.measuring configuration.key split).arranged chunks)
    have negated : ((conditions.measuring configuration.key split).arranged chunks).countP
        (fun outcome => decide ¬outcome.isScored = true) =
        ((conditions.measuring configuration.key split).arranged chunks).countP
          (fun outcome => !outcome.isScored) := by simp
    omega
  · rw [total, coversArranged.length_eq]
    simp [Split.queries, Table.size, Table.names]

/-! ### Rows and reports -/

/-- The rows and the report of a configuration that was aggregated. -/
structure AggregatedRows (conditions : Conditions) (configuration : Configuration)
    (report : ConfigReport) (rows : List Row) (split : Split) (score : Scoring)
    (outcomes : List Outcome) : Prop where
  ready : configuration.Ready split score
  /-- Every test query has one outcome. -/
  once : (outcomes.map Outcome.query).Perm split.test.names
  /-- It is what scoring the query by itself gives, unless its task vanished. -/
  told : ∀ outcome ∈ outcomes, ∃ query, split.queries[outcome.index]? = some query ∧
    outcome.query = query.id ∧
    (outcome.result = (conditions.batch split).scoreOne score query ∨
      outcome.result = .error Batch.aborted)
  /-- A query with a list has a row for every list metric in their order, a query without one has
  the row of its failure, and then there is a row for every global metric in their order. -/
  headings : rows.map Row.heading =
    outcomes.flatMap (Outcome.headings conditions.metrics) ++
      (Metric.globalMetrics conditions.metrics).map fun metric =>
        (.globalMetric, none, some metric.label)
  own : ∀ row ∈ rows, row.IsOf configuration.key
  scored : report.scored = outcomes.countP Outcome.isScored
  failed : report.failed = outcomes.countP fun outcome => !outcome.isScored
  total : report.scored + report.failed = report.queries
  queries : report.queries = split.test.size

/-- The rows of a configuration that failed. -/
structure FailedRows (configuration : Configuration) (stage : Stage) (error : String)
    (rows before : List Row) : Prop where
  /-- The row of the failure comes last. -/
  last : rows = before ++
    [Row.ofFailure configuration.key none s!"{stage.label}: {error}"]
  /-- All others are about queries. -/
  kinds : ∀ row ∈ before, row.kind = .listMetric ∨ row.kind = .queryFailure
  /-- There are none if the split could not be loaded, or the scorer not be built or trained. -/
  early : stage = .loading ∨ stage = .training ∨
    (∀ split score, ¬ configuration.Ready split score) → before = []

/-- A query that got its slot has what scoring it by itself gives, unless its task vanished. -/
theorem told_of_measured {conditions : Conditions} {configuration : Configuration} {split : Split}
    {score : Scoring} {progress : Batch.Progress} {sent : List Outcome} {gathered : Gathered}
    (measured : Task.Measured conditions configuration split score progress sent gathered)
    (everyone : progress.spawned.length = progress.next) :
    ∀ outcome ∈ sent, ∃ query, split.queries[outcome.index]? = some query ∧
      outcome.query = query.id ∧
      (outcome.result = (conditions.batch split).scoreOne score query ∨
        outcome.result = .error Batch.aborted ∧ outcome.index ∈ progress.lost) := by
  intro outcome member
  obtain ⟨query, present, name, result⟩ := measured.accounted.faithful outcome member
  have asked := (measured.accounted.placed_of_sent member).1
  refine ⟨query, present, name, ?_⟩
  rw [result, Batch.deserved, if_neg (by omega)]
  split
  · rename_i lost
    exact Or.inr ⟨rfl, lost⟩
  · exact Or.inl rfl

/-- A configuration all of whose queries got their slots and whose global metrics have their values
has all its rows. -/
theorem aggregatedRows_of_measured (report : ConfigReport) {conditions : Conditions}
    {configuration : Configuration} {split : Split} {score : Scoring} {progress : Batch.Progress}
    {sent : List Outcome} {gathered : Gathered} {analysis : Analysis}
    (measured : Task.Measured conditions configuration split score progress sent gathered)
    (everyone : progress.spawned.length = progress.next)
    (measures : gathered.analysis conditions.metrics = .ok analysis)
    (queries : report.queries = split.queries.length) (scored : report.scored = gathered.scored)
    (failed : report.failed = gathered.failed) :
    ∃ outcomes, outcomes.Perm sent ∧
      AggregatedRows conditions configuration report
        (gathered.rows ++ analysis.global.map fun value =>
          Row.ofMetric configuration.key none value.1 value.2) split score outcomes := by
  obtain ⟨outcomes, perm, tallied⟩ := tallied_of_measured measured
  have size : split.queries.length = split.test.size := by
    simp [Split.queries, Table.size, Table.names]
  refine ⟨outcomes, perm, tallied.ready, tallied.once, fun outcome member => ?_, ?_, ?_,
    scored.trans tallied.scored, failed.trans tallied.failed, ?_, queries.trans size⟩
  · obtain ⟨query, present, name, result⟩ :=
      told_of_measured measured everyone outcome (perm.mem_iff.mp member)
    exact ⟨query, present, name, result.imp_right And.left⟩
  · rw [List.map_append, tallied.headings, Gathered.headings_of_analysis _ measures]
  · intro row member
    rcases List.mem_append.mp member with early | global
    · exact tallied.own row early
    · obtain ⟨value, -, rfl⟩ := List.mem_map.mp global
      exact Row.isOf_ofMetric _ _ _ _
  · rw [scored, failed, tallied.total, queries, size]

theorem aboutQueries_of_measured {conditions : Conditions} {configuration : Configuration}
    {split : Split} {score : Scoring} {progress : Batch.Progress} {sent : List Outcome}
    {gathered : Gathered}
    (measured : Task.Measured conditions configuration split score progress sent gathered) :
    ∀ row ∈ gathered.rows, row.kind = .listMetric ∨ row.kind = .queryFailure := by
  obtain ⟨chunks, -, drains⟩ := measured.drained
  rw [Measuring.drain_eq] at drains
  exact fun row member => Row.kind_of_query (Measuring.query_of_gatherAll _ drains row member)

/-- A configuration that failed has the row of its failure last. -/
theorem failedRows_of_ended {conditions : Conditions} {configuration : Configuration}
    {report : ConfigReport} {rows : List Row}
    (ended : Task.Ended conditions configuration report rows) {stage : Stage} {error : String}
    (state : report.state = .failed stage error) :
    ∃ before, FailedRows configuration stage error rows before := by
  have late {stage : Stage} {split : Split} {score : Scoring} {before : List Row}
      (ready : configuration.Ready split score) (notLoading : stage ≠ .loading)
      (notTraining : stage ≠ .training) : stage = .loading ∨ stage = .training ∨
        (∀ split score, ¬ configuration.Ready split score) → before = [] := by
    rintro (loading | training | never)
    · exact absurd loading notLoading
    · exact absurd training notTraining
    · exact absurd ready (never split score)
  cases ended with
  | early failure why =>
    cases state
    exact ⟨[], rfl, by simp, fun _ => rfl⟩
  | measuringCrashed split score progress sent chunks crash before ready accounted done arrived
      crashes aboutQueries =>
    cases state
    exact ⟨before, rfl, fun row member => Row.kind_of_query (aboutQueries row member),
      late ready (by rintro ⟨⟩) (by rintro ⟨⟩)⟩
  | cancelled split score progress outcomes gathered measured =>
    cases state
    exact ⟨gathered.rows, rfl, aboutQueries_of_measured measured,
      late measured.ready (by rintro ⟨⟩) (by rintro ⟨⟩)⟩
  | aggregatingCrashed split score progress outcomes gathered crash measured everyone measures =>
    cases state
    exact ⟨gathered.rows, rfl, aboutQueries_of_measured measured,
      late measured.ready (by rintro ⟨⟩) (by rintro ⟨⟩)⟩
  | aggregated => cases state

/-- What is final about a configuration is said when it is through. -/
theorem Task.ended_of_terminal {conditions : Conditions} {task : Task}
    (travels : task.Travels conditions) (terminal : task.report.state.isTerminal = true) :
    Task.Ended conditions task.configuration task.report task.rows := by
  obtain ⟨configuration, phase, report, rows, handed, announced⟩ := task
  change Task.Travelled conditions configuration phase report rows at travels
  cases travels with
  | ended _ _ way => exact way
  | _ => cases terminal

end Holdout
