/-
This file proves what the summary of an aggregated configuration says. Its entries are about the
global metrics and, once a query was scored, about the list metrics as well, each metric under its
own name; every entry accounts for all values of its metric; and its counts are those of the rows of
the metric that were sent. A value that is infinite or no number has a row with a value, but the
summary counts it among the missing ones.
-/

import Holdout.Proofs.HeldOut
import Holdout.Proofs.Report

namespace Holdout

/-! ### Values of one metric -/

namespace Summary

/-- Whether a value counts. -/
def counts (value : MetricValue) : Bool := (present? value).isSome

theorem count_ofValues (values : List MetricValue) :
    (ofValues values).count = values.countP counts := by
  have present : (values.filterMap present?).length = values.countP counts :=
    List.length_filterMap_eq_countP
  rw [← present]
  unfold ofValues
  cases values.filterMap present? <;> rfl

theorem missing_ofValues (values : List MetricValue) :
    (ofValues values).missing = values.countP fun value => !counts value := by
  have both : values.length = values.countP counts + values.countP fun value => !counts value := by
    rw [List.length_eq_countP_add_countP counts]
    simp
  have missing : (ofValues values).missing = values.length - values.countP counts := by
    rw [← count_ofValues]
    unfold ofValues
    cases values.filterMap present? <;> rfl
  rw [missing, both, Nat.add_sub_cancel_left]

/-- Every value counts or is missing. -/
theorem total_ofValues (values : List MetricValue) :
    (ofValues values).count + (ofValues values).missing = values.length := by
  rw [count_ofValues, missing_ofValues, List.length_eq_countP_add_countP counts]
  simp

/-- There is a mean and a deviation exactly if some value counts. -/
theorem spread_ofValues (values : List MetricValue) :
    ((ofValues values).mean.isSome = true ↔ 0 < (ofValues values).count) ∧
      ((ofValues values).deviation.isSome = true ↔ 0 < (ofValues values).count) := by
  unfold ofValues
  cases values.filterMap present? <;> simp

end Summary

/-! ### Values under their names -/

namespace Analysis

theorem valuesOf_append (label : String) (first second : List (String × MetricValue)) :
    valuesOf label (first ++ second) = valuesOf label first ++ valuesOf label second := by
  rw [valuesOf, List.filter_append, List.map_append]
  rfl

theorem valuesOf_eq_nil {label : String} {values : List (String × MetricValue)}
    (absent : label ∉ values.map Prod.fst) : valuesOf label values = [] := by
  rw [valuesOf, List.map_eq_nil_iff, List.filter_eq_nil_iff]
  intro value member same
  exact absent (List.mem_map.mpr ⟨value, member, beq_iff_eq.mp same⟩)

/-- Among values with distinct names there is one under each of these. -/
theorem valuesOf_eq_singleton {values : List (String × MetricValue)} {value : String × MetricValue}
    (distinct : (values.map Prod.fst).Nodup) (member : value ∈ values) :
    valuesOf value.1 values = [value.2] := by
  obtain ⟨before, after, rfl⟩ := List.append_of_mem member
  rw [List.map_append, List.map_cons, List.nodup_append, List.nodup_cons] at distinct
  obtain ⟨-, ⟨notAfter, -⟩, apart⟩ := distinct
  have notBefore : value.1 ∉ before.map Prod.fst := fun inside =>
    apart _ inside _ List.mem_cons_self rfl
  rw [valuesOf_append, valuesOf_eq_nil notBefore, List.nil_append, ← List.singleton_append,
    valuesOf_append, valuesOf_eq_nil notAfter, List.append_nil]
  simp [valuesOf]

/-- Values that are put under the names of their metrics have these names. -/
theorem map_fst_named {Shape : Type} (label : Shape → String) {metrics : List Shape}
    {values : List MetricValue} (same : metrics.length = values.length) :
    ((metrics.zip values).map fun entry => (label entry.1, entry.2)).map Prod.fst =
      metrics.map label := by
  rw [List.map_map]
  show (metrics.zip values).map (label ∘ Prod.fst) = metrics.map label
  rw [← List.map_map, List.map_fst_zip same.le]

/-- Everything that the metrics said, under their names. -/
def said (analysis : Analysis) : List (String × MetricValue) :=
  analysis.listValues ++ analysis.global

/-- Whether an analysis holds what some metrics say: for every list the values of all list metrics,
and the values of all global ones, in their order. -/
structure Labelled (metrics : List Metric) (analysis : Analysis) : Prop where
  lists : ∀ measured ∈ analysis.lists,
    measured.values.map Prod.fst = (Metric.listMetrics metrics).map ListMetric.label
  global : analysis.global.map Prod.fst = (Metric.globalMetrics metrics).map GlobalMetric.label

/-- The names of the list metrics that have said something: all of them, or none. -/
def listLabels (metrics : List Metric) (analysis : Analysis) : List String :=
  if analysis.lists.length = 0 then [] else (Metric.listMetrics metrics).map ListMetric.label

variable {metrics : List Metric} {analysis : Analysis}

/-- However many lists were measured, every list metric is named once, unless there were none. -/
theorem eraseDups_listValues (distinct : (Metric.labels metrics).Nodup)
    (labelled : analysis.Labelled metrics) :
    (analysis.listValues.map Prod.fst).eraseDups = analysis.listLabels metrics := by
  have distinctLists := eraseDups_of_nodup (List.nodup_append.mp distinct).1
  have each := labelled.lists
  unfold listValues listLabels
  generalize analysis.lists = lists at each ⊢
  cases lists with
  | nil => rfl
  | cons first rest =>
    -- The first list names all of them, so the later ones bring no new name.
    have known : ((rest.flatMap Measured.values).map Prod.fst).removeAll
        ((Metric.listMetrics metrics).map ListMetric.label) = [] := by
      rw [List.removeAll, List.filter_eq_nil_iff]
      intro label member
      obtain ⟨value, inside, rfl⟩ := List.mem_map.mp member
      obtain ⟨measured, later, there⟩ := List.mem_flatMap.mp inside
      rw [← each measured (List.mem_cons_of_mem _ later)]
      simpa using ⟨value.2, there⟩
    rw [List.flatMap_cons, List.map_append, each first List.mem_cons_self, List.eraseDups_append,
      known, distinctLists, List.eraseDups_nil, List.append_nil]
    rfl

theorem mem_labels_of_listLabels {label : String} (member : label ∈ analysis.listLabels metrics) :
    label ∈ (Metric.listMetrics metrics).map ListMetric.label := by
  unfold listLabels at member
  split at member
  · cases member
  · exact member

theorem map_fst_listValues_subset (labelled : analysis.Labelled metrics) {label : String}
    (member : label ∈ analysis.listValues.map Prod.fst) :
    label ∈ (Metric.listMetrics metrics).map ListMetric.label := by
  obtain ⟨value, inside, rfl⟩ := List.mem_map.mp member
  obtain ⟨measured, later, there⟩ := List.mem_flatMap.mp inside
  rw [← labelled.lists measured later]
  exact List.mem_map_of_mem there

/-- Everything that a list metric said, it said of the lists. -/
theorem valuesOf_said_of_list (distinct : (Metric.labels metrics).Nodup)
    (labelled : analysis.Labelled metrics) {label : String}
    (list : label ∈ (Metric.listMetrics metrics).map ListMetric.label) :
    valuesOf label analysis.said = valuesOf label analysis.listValues := by
  have absent : label ∉ analysis.global.map Prod.fst := fun inside =>
    (List.nodup_append.mp distinct).2.2 _ list _ (labelled.global ▸ inside) rfl
  rw [said, valuesOf_append, valuesOf_eq_nil absent, List.append_nil]

/-- Everything that a global metric said, it said of the run. -/
theorem valuesOf_said_of_global (distinct : (Metric.labels metrics).Nodup)
    (labelled : analysis.Labelled metrics) {label : String}
    (global : label ∈ (Metric.globalMetrics metrics).map GlobalMetric.label) :
    valuesOf label analysis.said = valuesOf label analysis.global := by
  have absent : label ∉ analysis.listValues.map Prod.fst := fun inside =>
    (List.nodup_append.mp distinct).2.2 _ (map_fst_listValues_subset labelled inside) _ global rfl
  rw [said, valuesOf_append, valuesOf_eq_nil absent, List.nil_append]

/-- The entries of a summary: the list metrics that have said something and the global metrics, each
with the summary of everything that it said. -/
theorem entries_summary (distinct : (Metric.labels metrics).Nodup)
    (labelled : analysis.Labelled metrics) :
    analysis.summary.entries =
      (analysis.listLabels metrics ++
        (Metric.globalMetrics metrics).map GlobalMetric.label).map fun label =>
          (label, Summary.ofValues (valuesOf label analysis.said)) := by
  have distinctGlobals := (List.nodup_append.mp distinct).2.1
  have lists : (analysis.listLabels metrics).map (fun label =>
      (label, Summary.ofValues (valuesOf label analysis.listValues))) =
      (analysis.listLabels metrics).map fun label =>
        (label, Summary.ofValues (valuesOf label analysis.said)) := by
    refine List.map_congr_left fun label member => ?_
    rw [valuesOf_said_of_list distinct labelled (mem_labels_of_listLabels member)]
  have globals : (analysis.global.map fun value => (value.1, Summary.ofValues [value.2])) =
      ((Metric.globalMetrics metrics).map GlobalMetric.label).map fun label =>
        (label, Summary.ofValues (valuesOf label analysis.said)) := by
    rw [← labelled.global, List.map_map]
    refine List.map_congr_left fun value member => ?_
    have global : value.1 ∈ (Metric.globalMetrics metrics).map GlobalMetric.label :=
      labelled.global ▸ List.mem_map_of_mem member
    have single : valuesOf value.1 analysis.global = [value.2] :=
      valuesOf_eq_singleton (labelled.global ▸ distinctGlobals) member
    rw [Function.comp_apply, valuesOf_said_of_global distinct labelled global, single]
  have names : (analysis.listLabels metrics ++
      (Metric.globalMetrics metrics).map GlobalMetric.label).Nodup := by
    unfold listLabels
    split
    · exact distinctGlobals
    · exact distinct
  rw [summary, eraseDups_listValues distinct labelled, lists, globals, ← List.map_append]
  refine Table.entries_ofList ?_
  rw [List.map_map]
  exact (List.map_id _).symm ▸ names

/-- A list metric has a value for every list. -/
theorem length_valuesOf_listValues (distinct : (Metric.labels metrics).Nodup)
    (labelled : analysis.Labelled metrics) {metric : ListMetric}
    (member : metric ∈ Metric.listMetrics metrics) :
    (valuesOf metric.label analysis.listValues).length = analysis.lists.length := by
  have distinctLists := (List.nodup_append.mp distinct).1
  have each := labelled.lists
  unfold listValues
  generalize analysis.lists = lists at each ⊢
  induction lists with
  | nil => rfl
  | cons first rest inductionHypothesis =>
    have names := each first List.mem_cons_self
    have one : (valuesOf metric.label first.values).length = 1 := by
      obtain ⟨value, inside, same⟩ := List.mem_map.mp
        (names ▸ List.mem_map_of_mem member : metric.label ∈ first.values.map Prod.fst)
      rw [← same, valuesOf_eq_singleton (names ▸ distinctLists) inside, List.length_singleton]
    rw [List.flatMap_cons, valuesOf_append, List.length_append, List.length_cons, one,
      inductionHypothesis fun measured later => each measured (List.mem_cons_of_mem _ later),
      Nat.add_comm]

/-- A global metric has one value. -/
theorem length_valuesOf_global (distinct : (Metric.labels metrics).Nodup)
    (labelled : analysis.Labelled metrics) {metric : GlobalMetric}
    (member : metric ∈ Metric.globalMetrics metrics) :
    (valuesOf metric.label analysis.global).length = 1 := by
  have names := labelled.global
  obtain ⟨value, inside, same⟩ := List.mem_map.mp
    (names ▸ List.mem_map_of_mem member : metric.label ∈ analysis.global.map Prod.fst)
  have distinctGlobals := (List.nodup_append.mp distinct).2.1
  rw [← same, valuesOf_eq_singleton (names ▸ distinctGlobals) inside, List.length_singleton]

end Analysis

/-! ### Rows and values -/

namespace Row

/-- What a row says of its metric: a value, or why there is none. -/
def content (row : Row) : Option Float × Option String := (row.value, row.error)

/-- What the row of a value says. -/
def contentOf : MetricValue → Option Float × Option String
  | .ok number => (some number, none)
  | .error error => (none, some error.message)

/-- The rows about a metric. -/
def about (label : String) (rows : List Row) : List Row :=
  rows.filter fun row => row.metric == some label

theorem about_append (label : String) (first second : List Row) :
    about label (first ++ second) = about label first ++ about label second :=
  List.filter_append ..

theorem metric_ofMetric (key : ConfigKey) (query : Option String) (label : String)
    (value : MetricValue) : (ofMetric key query label value).metric = some label := by
  cases value <;> rfl

theorem content_ofMetric (key : ConfigKey) (query : Option String) (label : String)
    (value : MetricValue) : (ofMetric key query label value).content = contentOf value := by
  cases value <;> rfl

/-- The rows of values say what the values are. -/
theorem contents_ofMetric (key : ConfigKey) (query : Option String) (label : String)
    (values : List (String × MetricValue)) :
    (about label (values.map fun value => ofMetric key query value.1 value.2)).map content =
      (Analysis.valuesOf label values).map contentOf := by
  have same (value : String × MetricValue) :
      ((ofMetric key query value.1 value.2).metric == some label) = (value.1 == label) := by
    rw [metric_ofMetric]
    rfl
  simp only [about, Analysis.valuesOf, List.filter_map, List.map_map, Function.comp_def, same,
    content_ofMetric]

end Row

/-- Whether the rows that went out say what the list metrics said. -/
structure Gathered.Agrees (metrics : List Metric) (gathered : Gathered) : Prop where
  size : gathered.lists.length = gathered.scored
  labels : ∀ measured ∈ gathered.lists,
    measured.values.map Prod.fst = (Metric.listMetrics metrics).map ListMetric.label
  contents : ∀ label, (Row.about label gathered.rows).map Row.content =
    (Analysis.valuesOf label (gathered.lists.flatMap Measured.values)).map Row.contentOf

namespace Gathered

variable {metrics : List Metric}

theorem agrees_nothing : ({} : Gathered).Agrees metrics :=
  ⟨rfl, fun _ member => absurd member List.not_mem_nil, fun _ => rfl⟩

theorem Agrees.append {first second : Gathered} (early : first.Agrees metrics)
    (late : second.Agrees metrics) : (first ++ second).Agrees metrics where
  size := by
    rw [lists_append, List.length_append, scored_append, early.size, late.size]
  labels := fun measured member => by
    rw [lists_append] at member
    rcases List.mem_append.mp member with here | there
    · exact early.labels measured here
    · exact late.labels measured there
  contents := fun label => by
    rw [rows_append, lists_append, Row.about_append, List.flatMap_append, Analysis.valuesOf_append,
      List.map_append, List.map_append, early.contents, late.contents]

end Gathered

namespace Measuring

variable {measuring : Measuring}

theorem agrees_of_gather {outcome : Outcome} {gathered : Gathered}
    (gathers : measuring.gather outcome = .ok gathered) : gathered.Agrees measuring.metrics := by
  unfold gather at gathers
  cases result : outcome.result with
  | error error =>
    rw [result] at gathers
    cases gathers
    exact ⟨rfl, fun _ member => absurd member List.not_mem_nil, fun _ => rfl⟩
  | ok list =>
    rw [result] at gathers
    obtain ⟨measured, measures, gives⟩ := exists_of_bind gathers
    cases gives
    refine ⟨rfl, fun other member => ?_, fun label => ?_⟩
    · obtain rfl := List.mem_singleton.mp member
      obtain ⟨values, each, named⟩ := values_of_measureList measures
      rw [named]
      exact Analysis.map_fst_named ListMetric.label each.length_eq
    · have single : [measured].flatMap Measured.values = measured.values := List.append_nil _
      show (Row.about label (measured.values.map _)).map Row.content = _
      rw [Row.contents_ofMetric]
      exact (congrArg (fun values => (Analysis.valuesOf label values).map _) single).symm

/-- The rows of outcomes say what the list metrics say about them. -/
theorem agrees_of_gatherAll {outcomes : List Outcome} {gathered : Gathered}
    (gathers : measuring.gatherAll outcomes = .ok gathered) :
    gathered.Agrees measuring.metrics := by
  induction outcomes generalizing gathered with
  | nil =>
    cases gathers
    exact Gathered.agrees_nothing
  | cons outcome rest inductionHypothesis =>
    obtain ⟨first, one, gathers⟩ := exists_of_bind gathers
    obtain ⟨later, others, gives⟩ := exists_of_bind gathers
    cases gives
    exact (agrees_of_gather one).append (inductionHypothesis others)

end Measuring

/-! ### What an aggregated configuration says -/

/-- What the metrics said of a configuration, with its rows and its report. -/
structure Analysis.Told (metrics : List Metric) (analysis : Analysis) (report : ConfigReport)
    (rows : List Row) : Prop where
  labelled : analysis.Labelled metrics
  scored : analysis.lists.length = report.scored
  summary : report.summary = analysis.summary
  contents : ∀ label, (Row.about label rows).map Row.content =
    (Analysis.valuesOf label analysis.said).map Row.contentOf

theorem told_of_ended {conditions : Conditions} {configuration : Configuration}
    {report : ConfigReport} {rows : List Row}
    (ended : Task.Ended conditions configuration report rows)
    (state : report.state = .aggregated) :
    ∃ analysis : Analysis, analysis.Told conditions.metrics report rows := by
  cases ended with
  | early | measuringCrashed | cancelled | aggregatingCrashed => cases state
  | aggregated split score progress sent gathered analysis takes measured everyone measures =>
    obtain ⟨chunks, -, drains⟩ := measured.drained
    rw [Measuring.drain_eq] at drains
    have agrees : gathered.Agrees conditions.metrics := Measuring.agrees_of_gatherAll drains
    obtain ⟨global, globals, gives⟩ := exists_of_bind measures
    cases gives
    obtain ⟨values, each, named⟩ := Analysis.labelled_of_mapM GlobalMetric.label _ globals
    refine ⟨⟨gathered.lists, global⟩, ⟨agrees.labels, ?_⟩, agrees.size, rfl, fun label => ?_⟩
    · show global.map Prod.fst = _
      rw [named]
      exact Analysis.map_fst_named GlobalMetric.label each.length_eq
    · rw [Row.about_append, List.map_append, agrees.contents, Row.contents_ofMetric,
        ← List.map_append, ← Analysis.valuesOf_append]
      rfl

/-- What the summary of a configuration says of some metrics. -/
structure ConfigReport.Summarizes (metrics : List Metric) (report : ConfigReport) : Prop where
  /-- There is one entry for every global metric, one for every list metric unless no query was
  scored, and no other. -/
  names : report.summary.names =
    (if report.scored = 0 then [] else (Metric.listMetrics metrics).map ListMetric.label) ++
      (Metric.globalMetrics metrics).map GlobalMetric.label
  /-- The entry of a list metric accounts for all queries that were scored. -/
  lists : 0 < report.scored → ∀ metric ∈ Metric.listMetrics metrics, ∃ entry,
    report.summary.find? metric.label = some entry ∧ entry.count + entry.missing = report.scored
  /-- The entry of a global metric accounts for its one value. -/
  globals : ∀ metric ∈ Metric.globalMetrics metrics, ∃ entry,
    report.summary.find? metric.label = some entry ∧ entry.count + entry.missing = 1
  /-- There is a mean and a deviation exactly if some value counts. -/
  spread : ∀ label entry, report.summary.find? label = some entry →
    (entry.mean.isSome = true ↔ 0 < entry.count) ∧
      (entry.deviation.isSome = true ↔ 0 < entry.count)

namespace Analysis

variable {metrics : List Metric} {analysis : Analysis} {report : ConfigReport} {rows : List Row}

/-- Where there is an entry, it sums up everything that the metric said. -/
theorem Told.find?_eq_some_iff (distinct : (Metric.labels metrics).Nodup)
    (told : analysis.Told metrics report rows) {label : String} {entry : Summary} :
    report.summary.find? label = some entry ↔
      label ∈ analysis.listLabels metrics ++
        (Metric.globalMetrics metrics).map GlobalMetric.label ∧
      Summary.ofValues (valuesOf label analysis.said) = entry := by
  rw [Table.find?_eq_some_iff, told.summary, entries_summary distinct told.labelled, List.mem_map]
  constructor
  · rintro ⟨name, member, same⟩
    obtain ⟨rfl, equal⟩ := Prod.mk.inj same
    exact ⟨member, equal⟩
  · rintro ⟨member, equal⟩
    exact ⟨label, member, by rw [equal]⟩

theorem Told.summarizes (distinct : (Metric.labels metrics).Nodup)
    (told : analysis.Told metrics report rows) : report.Summarizes metrics where
  names := by
    rw [Table.names, told.summary, entries_summary distinct told.labelled, List.map_map,
      ← told.scored]
    exact List.map_id _
  lists := fun scored metric member => by
    have list := List.mem_map_of_mem (f := ListMetric.label) member
    have named : metric.label ∈ analysis.listLabels metrics := by
      rw [listLabels, if_neg (told.scored.trans_ne scored.ne')]
      exact list
    refine ⟨_, (told.find?_eq_some_iff distinct).mpr ⟨List.mem_append_left _ named, rfl⟩, ?_⟩
    rw [Summary.total_ofValues, valuesOf_said_of_list distinct told.labelled list,
      length_valuesOf_listValues distinct told.labelled member, told.scored]
  globals := fun metric member => by
    have global := List.mem_map_of_mem (f := GlobalMetric.label) member
    refine ⟨_, (told.find?_eq_some_iff distinct).mpr ⟨List.mem_append_right _ global, rfl⟩, ?_⟩
    rw [Summary.total_ofValues, valuesOf_said_of_global distinct told.labelled global,
      length_valuesOf_global distinct told.labelled member]
  spread := fun label entry found => by
    obtain ⟨-, rfl⟩ := (told.find?_eq_some_iff distinct).mp found
    exact Summary.spread_ofValues _

/-- Counting rows about a metric by what they say is counting what the metric said. -/
theorem Told.countP_about (told : analysis.Told metrics report rows) (label : String)
    (test : Option Float × Option String → Bool) :
    (Row.about label rows).countP (fun row => test row.content) =
      (valuesOf label analysis.said).countP fun value => test (Row.contentOf value) := by
  have both := congrArg (List.countP test) (told.contents label)
  rw [List.countP_map, List.countP_map] at both
  exact both

end Analysis

/-- What the entry of a metric says of the rows about it. -/
structure Summary.CountsRows (rows : List Row) (entry : Summary) : Prop where
  /-- Counted are the rows with a value that is a finite number. -/
  count : entry.count = rows.countP fun row => row.value.any Float.isFinite
  /-- Missing are the rows with an error, and those with any other value. -/
  missing : entry.missing = rows.countP fun row =>
    row.error.isSome || row.value.any fun number => !number.isFinite
  /-- If all values are finite numbers, these are the rows with a value and those with an error. -/
  finite : (∀ row ∈ rows, ∀ number, row.value = some number → number.isFinite = true) →
    (entry.count = rows.countP fun row => !row.isMissing) ∧
      entry.missing = rows.countP fun row => row.error.isSome

theorem Analysis.Told.countsRows {metrics : List Metric} {analysis : Analysis}
    {report : ConfigReport} {rows : List Row} (told : analysis.Told metrics report rows)
    (label : String) :
    (Summary.ofValues (valuesOf label analysis.said)).CountsRows (Row.about label rows) := by
  have count := told.countP_about label fun content => content.1.any Float.isFinite
  have missing := told.countP_about label fun content =>
    content.2.isSome || content.1.any fun number => !number.isFinite
  have counted (value : MetricValue) :
      (Row.contentOf value).1.any Float.isFinite = Summary.counts value := by
    cases value with
    | error error => rfl
    | ok number =>
      show number.isFinite = (if number.isFinite then some number else none).isSome
      cases number.isFinite <;> rfl
  have missed (value : MetricValue) : ((Row.contentOf value).2.isSome ||
      (Row.contentOf value).1.any fun number => !number.isFinite) = !Summary.counts value := by
    rw [← counted]
    cases value <;> rfl
  simp only [counted, missed] at count missing
  refine ⟨?_, ?_, fun finite => ⟨?_, ?_⟩⟩
  · rw [Summary.count_ofValues]
    exact count.symm
  · rw [Summary.missing_ofValues]
    exact missing.symm
  · rw [Summary.count_ofValues, ← count]
    refine List.countP_congr fun row member => ?_
    cases value : row.value with
    | none => simp [Row.content, Row.isMissing, value]
    | some number => simp [Row.content, Row.isMissing, value, finite row member number value]
  · rw [Summary.missing_ofValues, ← missing]
    refine List.countP_congr fun row member => ?_
    cases value : row.value with
    | none => simp [Row.content, value]
    | some number => simp [Row.content, value, finite row member number value]

/-! ### The summaries of a run -/

namespace Evaluator

@[simp] theorem configs_finish {State : Type} (evaluator : Evaluator) (run : Run)
    (sink : Sink State) (state : State) (stamp : RunStamp) :
    (evaluator.finish run sink state stamp).report.configs = run.configs := rfl

/-- What the metrics said of a configuration that ends aggregated. -/
theorem exists_told {evaluator : Evaluator} {plan : Plan} {begun run : Run} {moves : List RunMove}
    (begins : evaluator.begin plan = .ok begun)
    (follows : begun.follow (evaluator.conditions plan) moves = some run) {task : Task}
    (member : task ∈ run.tasks) (state : task.report.state = .aggregated) :
    ∃ analysis : Analysis, analysis.Told plan.metrics task.report task.rows := by
  obtain ⟨position, present⟩ := List.mem_iff_getElem?.mp member
  have travels := (Run.kept_follow (kept_of_begin begins) follows).travels position task present
  exact told_of_ended (Task.ended_of_terminal travels (by rw [state]; rfl)) state

/-- Whatever happens in a run of a valid plan, the summary of a configuration that ends aggregated
has one entry for every metric, which accounts for all its values, only that list metrics have none
if no query was scored; and the summary of the run is made of these one after the other. -/
theorem metrics_summarized {State : Type} (evaluator : Evaluator) (plan : Plan) (begun run : Run)
    (moves : List RunMove) (begins : evaluator.begin plan = .ok begun)
    (follows : begun.follow (evaluator.conditions plan) moves = some run) (sink : Sink State)
    (state : State) (stamp : RunStamp) :
    let report := (evaluator.finish run sink state stamp).report
    (∀ config ∈ report.configs, config.state = .aggregated → config.Summarizes plan.metrics) ∧
      report.summary = report.configs.flatMap fun config =>
        config.summary.entries.map fun entry => ⟨config.key, entry.1, entry.2⟩ := by
  refine ⟨fun config member aggregated => ?_, rfl⟩
  obtain ⟨task, there, rfl⟩ := List.mem_map.mp member
  obtain ⟨analysis, told⟩ := exists_told begins follows there aggregated
  exact told.summarizes (valid_of_begin begins).distinct_labels

/-- One query that gets a list, with a list metric and a global one. -/
theorem metrics_summarized_single :
    let plan := Plan.ofAlgorithms [.answering "a" (.ok Plan.answer)]
      [.list ⟨"size", fun _ _ => .ok (.ok 1.0)⟩,
        .global ⟨"lists", fun _ _ => .ok (.error (.unordered "lists"))⟩]
    ∃ config, (fresh.inTurn plan).configs = [config] ∧ config.state = .aggregated ∧
      config.scored = 1 ∧ config.Summarizes plan.metrics := by
  intro plan
  have seen : (fresh.inTurn plan).configs.map (fun config => (config.state, config.scored)) =
      [(.aggregated, 1)] := by decide +kernel
  obtain ⟨config, single, parts⟩ := List.map_eq_singleton_iff.mp seen
  obtain ⟨aggregated, scored⟩ := Prod.mk.inj parts
  obtain ⟨moves, follows⟩ := follow_inTurn fresh plan rfl
  have summarized := metrics_summarized fresh plan _ _ moves rfl follows .memory [] default
  have member : config ∈ (fresh.finish (fresh.inTurn plan) .memory [] default).report.configs := by
    rw [configs_finish, single]
    exact List.mem_cons_self
  exact ⟨config, single, aggregated, scored, summarized.1 config member aggregated⟩

/-- A query that fails leaves its configuration without an entry for the list metric, though it is
aggregated. -/
theorem metric_without_entry :
    let plan := Plan.ofAlgorithms [.answering "a" (.error (.failed "no list"))]
      [.list ⟨"size", fun _ _ => .ok (.ok 1.0)⟩]
    ¬ ∀ config ∈ (fresh.inTurn plan).configs, config.state = .aggregated →
      ∀ metric ∈ plan.metrics, metric.label ∈ config.summary.names := by
  decide +kernel

/-- Whatever happens in a run of a valid plan, the summary of a configuration that ends aggregated
counts the rows that it sent, and once the run is over they are its rows at the sink. -/
theorem summary_counts_rows (evaluator : Evaluator) (plan : Plan) (begun run : Run)
    (moves : List RunMove) (begins : evaluator.begin plan = .ok begun)
    (follows : begun.follow (evaluator.conditions plan) moves = some run) (task : Task)
    (member : task ∈ run.tasks) (state : task.report.state = .aggregated) :
    (∀ label entry, task.report.summary.find? label = some entry →
        entry.CountsRows (Row.about label task.rows)) ∧
      (run.isOver = true → run.logOf task.report.key = task.rows) := by
  obtain ⟨analysis, told⟩ := exists_told begins follows member state
  constructor
  · intro label entry found
    obtain ⟨-, rfl⟩ :=
      (told.find?_eq_some_iff (valid_of_begin begins).distinct_labels).mp found
    exact told.countsRows label
  · intro isOver
    obtain ⟨position, present⟩ := List.mem_iff_getElem?.mp member
    have logged := logged_of_begin begins follows
    rw [(logged.owned position task present).key]
    exact Run.logOf_of_isOver logged isOver present

/-- One query that gets a list, which one metric has a value for and the other has not. -/
theorem summary_counts_rows_single :
    let plan := Plan.ofAlgorithms [.answering "a" (.ok Plan.answer)]
      [.list ⟨"size", fun _ _ => .ok (.ok 1.0)⟩,
        .list ⟨"order", fun _ _ => .ok (.error (.unordered "order"))⟩]
    ∃ task size order, (fresh.inTurn plan).tasks = [task] ∧ task.report.state = .aggregated ∧
      task.report.summary.find? "size" = some size ∧ size.count = 1 ∧
      size.CountsRows (Row.about "size" task.rows) ∧
      task.report.summary.find? "order" = some order ∧ order.missing = 1 ∧
      order.CountsRows (Row.about "order" task.rows) ∧
      (fresh.inTurn plan).logOf ⟨"a", "s"⟩ = task.rows := by
  intro plan
  have seen : (fresh.inTurn plan).tasks.map (fun task => (task.report.state, task.report.key,
      (task.report.summary.find? "size").map Summary.count,
      (task.report.summary.find? "order").map Summary.missing)) =
      [(.aggregated, ⟨"a", "s"⟩, some 1, some 1)] := by decide +kernel
  have isOver : (fresh.inTurn plan).isOver = true := by decide +kernel
  obtain ⟨task, single, parts⟩ := List.map_eq_singleton_iff.mp seen
  simp only [Prod.mk.injEq, Option.map_eq_some_iff] at parts
  obtain ⟨aggregated, key, ⟨size, foundSize, count⟩, order, foundOrder, missing⟩ := parts
  obtain ⟨moves, follows⟩ := follow_inTurn fresh plan rfl
  obtain ⟨counts, log⟩ := summary_counts_rows fresh plan _ _ moves rfl follows task
    (single ▸ List.mem_cons_self) aggregated
  exact ⟨task, size, order, single, aggregated, foundSize, count, counts _ _ foundSize, foundOrder,
    missing, counts _ _ foundOrder, key ▸ log isOver⟩

/-- A value that is no number has a row with a value and without an error, but it is missing in the
summary. -/
theorem value_without_count :
    let plan := Plan.ofAlgorithms [.answering "a" (.ok Plan.answer)]
      [.list ⟨"size", fun _ _ => .ok (.ok (0.0 / 0.0))⟩]
    ¬ ∀ task ∈ (fresh.inTurn plan).tasks, task.report.state = .aggregated →
      ∀ entry ∈ task.report.summary.entries,
        entry.2.count = (Row.about entry.1 task.rows).countP (fun row => !row.isMissing) ∧
          entry.2.missing = (Row.about entry.1 task.rows).countP fun row => row.error.isSome := by
  decide +kernel

end Evaluator

end Holdout
