/-
This file proves what measuring outcomes chunk by chunk gives. It is what measuring them one by one
gives, so the boundaries of the chunks do not matter: every outcome has a block of rows, which are
the values of the list metrics in their order, or the one row of a failure.
-/

import Holdout.Experiment.Measuring
import Mathlib.Data.List.Forall2

namespace Holdout

/-! ### Gathering -/

namespace Gathered

@[simp] theorem rows_append (first second : Gathered) :
    (first ++ second).rows = first.rows ++ second.rows := rfl

@[simp] theorem lists_append (first second : Gathered) :
    (first ++ second).lists = first.lists ++ second.lists := rfl

@[simp] theorem pairs_append (first second : Gathered) :
    (first ++ second).pairs = first.pairs ++ second.pairs := rfl

@[simp] theorem scored_append (first second : Gathered) :
    (first ++ second).scored = first.scored + second.scored := rfl

@[simp] theorem failed_append (first second : Gathered) :
    (first ++ second).failed = first.failed + second.failed := rfl

theorem ext_iff_parts {first second : Gathered} :
    first = second ↔ first.rows = second.rows ∧ first.lists = second.lists ∧
      first.pairs = second.pairs ∧ first.scored = second.scored ∧
      first.failed = second.failed := by
  cases first
  cases second
  simp

@[simp] theorem nothing_append (gathered : Gathered) : ({} : Gathered) ++ gathered = gathered := by
  simp [ext_iff_parts]

theorem append_assoc (first second third : Gathered) :
    first ++ second ++ third = first ++ (second ++ third) := by
  simp [ext_iff_parts, List.append_assoc, Nat.add_assoc]

end Gathered

/-! ### Metrics -/

/-- Metrics that never crash. -/
structure Metric.Calm (metrics : List Metric) : Prop where
  lists : ∀ metric ∈ Metric.listMetrics metrics, ∀ recommended reference,
    ∃ value, metric.measure recommended reference = .ok value
  globals : ∀ metric ∈ Metric.globalMetrics metrics, ∀ recommended references,
    ∃ value, metric.measure recommended references = .ok value

namespace Analysis

/-- Metrics that are asked one after the other and do not crash have a value each. -/
theorem labelled_of_mapM {Shape : Type} (label : Shape → String)
    (measure : Shape → Guarded MetricValue) {metrics : List Shape}
    {pairs : List (String × MetricValue)}
    (maps : metrics.mapM (fun metric => do
      let value ← measure metric
      return (label metric, value)) = Except.ok pairs) :
    ∃ values, List.Forall₂ (fun metric value => measure metric = .ok value) metrics values ∧
      pairs = (metrics.zip values).map fun entry => (label entry.1, entry.2) := by
  induction metrics generalizing pairs with
  | nil =>
    cases maps
    exact ⟨[], .nil, rfl⟩
  | cons metric rest inductionHypothesis =>
    rw [List.mapM_cons] at maps
    cases first : measure metric with
    | error crash =>
      rw [first] at maps
      cases maps
    | ok value =>
      rw [first] at maps
      cases later : rest.mapM (fun metric => do
          let value ← measure metric
          return (label metric, value)) with
      | error crash =>
        rw [later] at maps
        cases maps
      | ok others =>
        rw [later] at maps
        cases maps
        obtain ⟨values, measured, rfl⟩ := inductionHypothesis later
        exact ⟨value :: values, .cons first measured, rfl⟩

/-- Metrics that never crash can be asked one after the other. -/
theorem exists_mapM {Shape : Type} (label : Shape → String)
    (measure : Shape → Guarded MetricValue) {metrics : List Shape}
    (calm : ∀ metric ∈ metrics, ∃ value, measure metric = .ok value) :
    ∃ pairs, metrics.mapM (fun metric => do
      let value ← measure metric
      return (label metric, value)) = Except.ok pairs := by
  induction metrics with
  | nil => exact ⟨[], rfl⟩
  | cons metric rest inductionHypothesis =>
    obtain ⟨value, first⟩ := calm metric List.mem_cons_self
    obtain ⟨others, later⟩ := inductionHypothesis fun other member =>
      calm other (List.mem_cons_of_mem _ member)
    refine ⟨(label metric, value) :: others, ?_⟩
    rw [List.mapM_cons, first, later]
    rfl

variable {metrics : List Metric}

theorem exists_measureList (calm : Metric.Calm metrics) (query : QueryId)
    (recommended reference : ItemList) :
    ∃ measured, measureList metrics query recommended reference = .ok measured := by
  obtain ⟨pairs, maps⟩ := exists_mapM ListMetric.label (·.measure recommended reference)
    fun metric member => calm.lists metric member recommended reference
  exact ⟨⟨query, pairs⟩, by rw [measureList, maps]; rfl⟩

theorem exists_measureGlobal (calm : Metric.Calm metrics)
    (recommended references : List ItemList) :
    ∃ pairs, measureGlobal metrics recommended references = .ok pairs :=
  exists_mapM GlobalMetric.label (·.measure recommended references)
    fun metric member => calm.globals metric member recommended references

/-- Without global metrics, it does not matter which lists are kept for them. -/
theorem measureGlobal_of_none (noGlobals : Metric.hasGlobal metrics = false)
    (recommended references : List ItemList) :
    measureGlobal metrics recommended references = .ok [] := by
  have nothing : Metric.globalMetrics metrics = [] := by
    refine List.filterMap_eq_nil_iff.mpr fun metric member => ?_
    have notGlobal := List.any_eq_false.mp noGlobals metric member
    cases metric with
    | list metric => rfl
    | global metric => exact absurd rfl notGlobal
  rw [measureGlobal, nothing]
  rfl

end Analysis

namespace Measuring

/-- What one outcome gives. -/
def gather (measuring : Measuring) (outcome : Outcome) : Guarded Gathered :=
  match outcome.result with
  | .error error => .ok (measuring.ofFailed outcome.query error)
  | .ok list => do
    let measured ← Analysis.measureList measuring.metrics outcome.query list
      (measuring.referenceOf outcome.query)
    return measuring.ofMeasured outcome.query list measured

/-- What outcomes give that are measured one by one. -/
def gatherAll (measuring : Measuring) : List Outcome → Guarded Gathered
  | [] => .ok {}
  | outcome :: rest => do
    let first ← measuring.gather outcome
    let later ← measuring.gatherAll rest
    return first ++ later

variable (measuring : Measuring)

theorem gatherAll_append (first second : List Outcome) :
    measuring.gatherAll (first ++ second) = (do
      let early ← measuring.gatherAll first
      let late ← measuring.gatherAll second
      return early ++ late) := by
  induction first with
  | nil =>
    simp only [List.nil_append, gatherAll]
    cases measuring.gatherAll second with
    | error crash => rfl
    | ok late => exact congrArg Except.ok (Gathered.nothing_append late).symm
  | cons outcome rest inductionHypothesis =>
    simp only [List.cons_append, gatherAll, inductionHypothesis]
    cases measuring.gather outcome with
    | error crash => rfl
    | ok one =>
      cases measuring.gatherAll rest with
      | error crash => rfl
      | ok early =>
        cases measuring.gatherAll second with
        | error crash => rfl
        | ok late => exact congrArg Except.ok (Gathered.append_assoc one early late).symm

/-- A chunk gives what its outcomes give one by one: the values that were measured beforehand meet
the outcomes that they belong to. -/
theorem measureChunk_eq (chunk : List Outcome) :
    measuring.measureChunk chunk = measuring.gatherAll chunk := by
  unfold measureChunk
  induction chunk with
  | nil => rfl
  | cons outcome rest inductionHypothesis =>
    rw [gatherAll, ← inductionHypothesis]
    cases result : outcome.result with
    | error error =>
      have noPair : measuring.pairOf? outcome = none := by simp only [pairOf?, result]
      rw [List.filterMap_cons_none noPair]
      simp only [gather, result]
      cases Analysis.measurePairs measuring.metrics (rest.filterMap measuring.pairOf?) with
      | error crash => rfl
      | ok values =>
        show Except.ok (measuring.emit values (outcome :: rest)) = _
        rw [emit, result]
        rfl
    | ok list =>
      have pair : measuring.pairOf? outcome =
          some (outcome.query, list, measuring.referenceOf outcome.query) := by
        simp only [pairOf?, result]
      rw [List.filterMap_cons_some pair, Analysis.measurePairs, List.mapM_cons]
      simp only [gather, result]
      cases Analysis.measureList measuring.metrics outcome.query list
        (measuring.referenceOf outcome.query) with
      | error crash => rfl
      | ok measured =>
        cases later : (rest.filterMap measuring.pairOf?).mapM fun pair =>
          Analysis.measureList measuring.metrics pair.1 pair.2.1 pair.2.2 with
        | error crash =>
          rw [Analysis.measurePairs, later]
          rfl
        | ok values =>
          rw [Analysis.measurePairs, later]
          show Except.ok (measuring.emit (measured :: values) (outcome :: rest)) = _
          rw [emit, result]
          rfl

/-- The order in which outcomes are measured that arrive in some chunks. -/
def arranged (chunks : List (List Outcome)) : List Outcome :=
  if measuring.ordered then (Reorder.inOrder chunks).flatten else chunks.flatten

theorem drainFrom_eq (reorder : Reorder) (chunks : List (List Outcome))
    (nothing : measuring.ordered = false → reorder.held = []) :
    measuring.drainFrom reorder chunks =
      measuring.gatherAll
        (if measuring.ordered then (reorder.releases chunks).flatten else chunks.flatten) := by
  induction chunks generalizing reorder with
  | nil =>
    simp only [drainFrom, finish, measureChunk_eq]
    cases ordered : measuring.ordered with
    | true => simp [Reorder.releases]
    | false => simp [nothing ordered]
  | cons chunk rest inductionHypothesis =>
    simp only [drainFrom, absorb]
    cases ordered : measuring.ordered with
    | true =>
      simp only [ordered, if_true, Reorder.releases, List.flatten_cons, gatherAll_append,
        measureChunk_eq] at inductionHypothesis ⊢
      cases measuring.gatherAll (reorder.release chunk).1 with
      | error crash => rfl
      | ok part =>
        have later := inductionHypothesis (reorder.release chunk).2 (by simp)
        simp only [bind, Except.bind, pure, Except.pure, later]
    | false =>
      simp only [ordered, Bool.false_eq_true, if_false, List.flatten_cons, gatherAll_append,
        measureChunk_eq] at inductionHypothesis ⊢
      cases measuring.gatherAll chunk with
      | error crash => rfl
      | ok part =>
        have later := inductionHypothesis reorder (fun _ => nothing ordered)
        simp only [bind, Except.bind, pure, Except.pure, later]

/-- What arrives in chunks gives what the outcomes give one by one. -/
theorem drain_eq (chunks : List (List Outcome)) :
    measuring.drain chunks = measuring.gatherAll (measuring.arranged chunks) :=
  measuring.drainFrom_eq .start chunks fun _ => rfl

/-! ### What goes out and what is kept -/

/-- The rows of one outcome: what the list metrics say about its list, or its failure. -/
inductive Block (outcome : Outcome) : List Row → Prop where
  | scored (list : ItemList) (values : List MetricValue) (result : outcome.result = .ok list)
      (measured : List.Forall₂
        (fun metric value =>
          metric.measure list (measuring.referenceOf outcome.query) = .ok value)
        (Metric.listMetrics measuring.metrics) values) :
      Block outcome (((Metric.listMetrics measuring.metrics).zip values).map fun entry =>
        Row.ofMetric measuring.key (some outcome.query) entry.1.label entry.2)
  | failed (error : QueryError) (result : outcome.result = .error error) :
      Block outcome [Row.ofFailure measuring.key (some outcome.query) error.message]

/-- A list that is measured has a value for every list metric. -/
theorem values_of_measureList {metrics : List Metric} {query : QueryId}
    {recommended reference : ItemList} {measured : Measured}
    (measures : Analysis.measureList metrics query recommended reference = .ok measured) :
    ∃ values,
      List.Forall₂ (fun metric value => metric.measure recommended reference = .ok value)
        (Metric.listMetrics metrics) values ∧
      measured.values =
        ((Metric.listMetrics metrics).zip values).map fun entry => (entry.1.label, entry.2) := by
  unfold Analysis.measureList at measures
  cases maps : (Metric.listMetrics metrics).mapM (fun metric => do
      let value ← metric.measure recommended reference
      return (metric.label, value)) with
  | error crash =>
    rw [maps] at measures
    cases measures
  | ok pairs =>
    rw [maps] at measures
    cases measures
    exact Analysis.labelled_of_mapM ListMetric.label (·.measure recommended reference) maps

/-- What one outcome gives: its block of rows, and one more query that was scored or failed. -/
theorem block_of_gather {outcome : Outcome} {gathered : Gathered}
    (gathers : measuring.gather outcome = .ok gathered) :
    measuring.Block outcome gathered.rows ∧
      gathered.scored = [outcome].countP Outcome.isScored ∧
      gathered.scored + gathered.failed = 1 := by
  unfold gather at gathers
  cases result : outcome.result with
  | error error =>
    simp only [result] at gathers
    cases gathers
    refine ⟨.failed error result, ?_, rfl⟩
    simp [ofFailed, Outcome.isScored, result, Except.isOk, Except.toBool]
  | ok list =>
    simp only [result] at gathers
    cases measures : Analysis.measureList measuring.metrics outcome.query list
        (measuring.referenceOf outcome.query) with
    | error crash =>
      rw [measures] at gathers
      cases gathers
    | ok measured =>
      rw [measures] at gathers
      cases gathers
      obtain ⟨values, each, equal⟩ := values_of_measureList measures
      refine ⟨?_, ?_, rfl⟩
      · have block : measuring.Block outcome _ := .scored list values result each
        simpa only [ofMeasured, equal, List.map_map, Function.comp_def] using block
      · simp [ofMeasured, Outcome.isScored, result, Except.isOk, Except.toBool]

/-- What outcomes give: a block of rows for each of them, in their order, and the numbers of those
that were scored and that failed. -/
theorem blocks_of_gatherAll {outcomes : List Outcome} {gathered : Gathered}
    (gathers : measuring.gatherAll outcomes = .ok gathered) :
    (∃ blocks, List.Forall₂ measuring.Block outcomes blocks ∧ gathered.rows = blocks.flatten) ∧
      gathered.scored = outcomes.countP Outcome.isScored ∧
      gathered.scored + gathered.failed = outcomes.length := by
  induction outcomes generalizing gathered with
  | nil =>
    cases gathers
    exact ⟨⟨[], .nil, rfl⟩, rfl, rfl⟩
  | cons outcome rest inductionHypothesis =>
    rw [gatherAll] at gathers
    cases one : measuring.gather outcome with
    | error crash =>
      rw [one] at gathers
      cases gathers
    | ok first =>
      rw [one] at gathers
      cases others : measuring.gatherAll rest with
      | error crash =>
        rw [others] at gathers
        cases gathers
      | ok later =>
        rw [others] at gathers
        cases gathers
        obtain ⟨block, scored, single⟩ := measuring.block_of_gather one
        obtain ⟨⟨blocks, each, rows⟩, laterScored, total⟩ := inductionHypothesis others
        refine ⟨⟨first.rows :: blocks, .cons block each, ?_⟩, ?_, ?_⟩
        · simp only [Gathered.rows_append, rows, List.flatten_cons]
        · simp only [Gathered.scored_append, scored, laterScored, List.countP_cons,
            List.countP_nil]
          omega
        · simp only [Gathered.scored_append, Gathered.failed_append, List.length_cons]
          omega

/-- What is kept for the global metrics. -/
def kept (outcomes : List Outcome) : List (ItemList × ItemList) :=
  if Metric.hasGlobal measuring.metrics then (outcomes.filterMap measuring.pairOf?).map Prod.snd
  else []

/-- The values of the list metrics are those of the lists, and the lists are kept if there are
global metrics. -/
theorem lists_of_gatherAll (outcomes : List Outcome) :
    (measuring.gatherAll outcomes).map (fun gathered => (gathered.lists, gathered.pairs)) =
      (Analysis.measurePairs measuring.metrics (outcomes.filterMap measuring.pairOf?)).map
        fun lists => (lists, measuring.kept outcomes) := by
  induction outcomes with
  | nil => simp [gatherAll, Analysis.measurePairs, kept, pure, Except.pure, Except.map]
  | cons outcome rest inductionHypothesis =>
    rw [gatherAll]
    cases result : outcome.result with
    | error error =>
      have noPair : measuring.pairOf? outcome = none := by simp only [pairOf?, result]
      have sameKept : measuring.kept (outcome :: rest) = measuring.kept rest := by
        simp only [kept, List.filterMap_cons_none noPair]
      rw [List.filterMap_cons_none noPair, sameKept, ← inductionHypothesis]
      simp only [gather, result]
      cases measuring.gatherAll rest with
      | error crash => rfl
      | ok later => rfl
    | ok list =>
      have pair : measuring.pairOf? outcome =
          some (outcome.query, list, measuring.referenceOf outcome.query) := by
        simp only [pairOf?, result]
      rw [List.filterMap_cons_some pair, Analysis.measurePairs, List.mapM_cons]
      rw [Analysis.measurePairs] at inductionHypothesis
      simp only [gather, result]
      cases Analysis.measureList measuring.metrics outcome.query list
        (measuring.referenceOf outcome.query) with
      | error crash => rfl
      | ok measured =>
        have moreKept : measuring.kept (outcome :: rest) =
            (measuring.ofMeasured outcome.query list measured).pairs ++ measuring.kept rest := by
          simp only [kept, ofMeasured, List.filterMap_cons_some pair]
          split <;> rfl
        rw [moreKept]
        generalize (rest.filterMap measuring.pairOf?).mapM (fun pair =>
          Analysis.measureList measuring.metrics pair.1 pair.2.1 pair.2.2) = values
          at inductionHypothesis ⊢
        generalize measuring.gatherAll rest = gathers at inductionHypothesis ⊢
        cases gathers with
        | error crash =>
          cases values with
          | error other => exact congrArg _ (Except.error.inj inductionHypothesis)
          | ok lists => cases inductionHypothesis
        | ok later =>
          cases values with
          | error other => cases inductionHypothesis
          | ok lists =>
            obtain ⟨sameLists, samePairs⟩ := Prod.mk.inj (Except.ok.inj inductionHypothesis)
            rw [← sameLists, ← samePairs]
            rfl

/-- Metrics that never crash measure all outcomes. -/
theorem exists_gatherAll (calm : Metric.Calm measuring.metrics) (outcomes : List Outcome) :
    ∃ gathered, measuring.gatherAll outcomes = .ok gathered := by
  induction outcomes with
  | nil => exact ⟨{}, rfl⟩
  | cons outcome rest inductionHypothesis =>
    obtain ⟨later, others⟩ := inductionHypothesis
    cases result : outcome.result with
    | error error =>
      exact ⟨measuring.ofFailed outcome.query error ++ later,
        by simp only [gatherAll, gather, result, others]; rfl⟩
    | ok list =>
      obtain ⟨measured, measures⟩ := Analysis.exists_measureList calm outcome.query list
        (measuring.referenceOf outcome.query)
      exact ⟨measuring.ofMeasured outcome.query list measured ++ later,
        by simp only [gatherAll, gather, result, measures, others]; rfl⟩

end Measuring

/-! ### Rows -/

/-- What a row is about: its kind, its query and its metric. -/
def Row.heading (row : Row) : RowKind × Option String × Option String :=
  (row.kind, row.query, row.metric)

/-- What the rows of an outcome are about: every list metric in order if there is a list, and else
the failure. -/
def Outcome.headings (metrics : List Metric) (outcome : Outcome) :
    List (RowKind × Option String × Option String) :=
  if outcome.isScored then
    (Metric.listMetrics metrics).map fun metric =>
      (.listMetric, some outcome.query, some metric.label)
  else [(.queryFailure, some outcome.query, none)]

theorem Row.heading_ofMetric (key : ConfigKey) (query : Option String) (label : String)
    (value : MetricValue) :
    (Row.ofMetric key query label value).heading =
      (if query.isSome then .listMetric else .globalMetric, query, some label) := by
  cases value <;> cases query <;> rfl

/-- What the rows of a block are about. -/
theorem Measuring.headings_of_block {measuring : Measuring} {outcome : Outcome} {rows : List Row}
    (block : measuring.Block outcome rows) :
    rows.map Row.heading = outcome.headings measuring.metrics := by
  cases block with
  | scored list values result measured =>
    have isScored : outcome.isScored = true := by
      simp [Outcome.isScored, result, Except.isOk, Except.toBool]
    rw [Outcome.headings, if_pos isScored, List.map_map]
    generalize Metric.listMetrics measuring.metrics = metrics at measured
    induction measured with
    | nil => rfl
    | cons first _ inductionHypothesis =>
      simp only [List.zip_cons_cons, List.map_cons, inductionHypothesis, Function.comp_apply,
        Row.heading_ofMetric, Option.isSome_some, if_true]
  | failed error result =>
    have isFailed : outcome.isScored = false := by
      simp [Outcome.isScored, result, Except.isOk, Except.toBool]
    simp only [Outcome.headings, isFailed, Bool.false_eq_true, if_false]
    rfl

/-- What the rows are about that outcomes lead to. -/
theorem Measuring.headings_of_gatherAll {measuring : Measuring} {outcomes : List Outcome}
    {gathered : Gathered} (gathers : measuring.gatherAll outcomes = .ok gathered) :
    gathered.rows.map Row.heading = outcomes.flatMap (Outcome.headings measuring.metrics) := by
  obtain ⟨⟨blocks, each, rows⟩, -⟩ := measuring.blocks_of_gatherAll gathers
  rw [rows]
  clear rows gathers
  induction each with
  | nil => rfl
  | cons block _ inductionHypothesis =>
    rw [List.flatten_cons, List.map_append, Measuring.headings_of_block block,
      inductionHypothesis, List.flatMap_cons]

/-- What the rows of the global metrics are about. -/
theorem Gathered.headings_of_analysis {metrics : List Metric} {gathered : Gathered}
    {analysis : Analysis} (key : ConfigKey) (measures : gathered.analysis metrics = .ok analysis) :
    (analysis.global.map fun value => Row.ofMetric key none value.1 value.2).map Row.heading =
      (Metric.globalMetrics metrics).map fun metric =>
        (.globalMetric, none, some metric.label) := by
  unfold Gathered.analysis at measures
  cases globals : Analysis.measureGlobal metrics (gathered.pairs.map Prod.fst)
      (gathered.pairs.map Prod.snd) with
  | error crash =>
    rw [globals] at measures
    cases measures
  | ok pairs =>
    rw [globals] at measures
    cases measures
    obtain ⟨values, each, rfl⟩ := Analysis.labelled_of_mapM GlobalMetric.label _ globals
    rw [List.map_map, List.map_map]
    clear globals
    generalize Metric.globalMetrics metrics = globalMetrics at each
    induction each with
    | nil => rfl
    | cons first _ inductionHypothesis =>
      simp only [List.zip_cons_cons, List.map_cons, inductionHypothesis, Function.comp_apply,
        Row.heading_ofMetric, Option.isSome_none, Bool.false_eq_true, if_false]

namespace Measuring

variable (measuring : Measuring)

/-- The rows of a block are about the query of its outcome. -/
theorem query_of_block {outcome : Outcome} {rows : List Row} (block : measuring.Block outcome rows)
    {row : Row} (member : row ∈ rows) : row.query = some outcome.query := by
  cases block with
  | scored list values result measured =>
    obtain ⟨⟨metric, value⟩, -, rfl⟩ := List.mem_map.mp member
    cases value with
    | ok number => rfl
    | error error => rfl
  | failed error result =>
    obtain rfl := List.mem_singleton.mp member
    rfl

/-- Every row that outcomes lead to is about a query. -/
theorem query_of_gatherAll {outcomes : List Outcome} {gathered : Gathered}
    (gathers : measuring.gatherAll outcomes = .ok gathered) :
    ∀ row ∈ gathered.rows, row.query.isSome = true := by
  obtain ⟨⟨blocks, each, rows⟩, -⟩ := measuring.blocks_of_gatherAll gathers
  intro row member
  rw [rows] at member
  clear rows gathers
  induction each with
  | nil => cases member
  | cons block _ inductionHypothesis =>
    rcases List.mem_append.mp member with here | later
    · rw [measuring.query_of_block block here]
      rfl
    · exact inductionHypothesis later

/-! ### Measuring while outcomes arrive -/

/-- What was gathered from the chunks that came so far: whatever chunks follow, in the end there is
this and what they lead to. -/
structure Absorbed (chunks : List (List Outcome)) (reorder : Reorder) (gathered : Gathered) :
    Prop where
  law : ∀ rest, measuring.drain (chunks ++ rest) = (do
    let later ← measuring.drainFrom reorder rest
    return gathered ++ later)
  aboutQueries : ∀ row ∈ gathered.rows, row.query.isSome = true

theorem absorbed_start : measuring.Absorbed [] .start {} := by
  refine ⟨fun rest => ?_, by simp⟩
  rw [List.nil_append, drain]
  cases measuring.drainFrom .start rest with
  | error crash => rfl
  | ok later => exact congrArg Except.ok (Gathered.nothing_append later).symm

/-- Taking a chunk in measures what is released, or the chunk itself. -/
theorem gatherAll_of_absorb {reorder after : Reorder} {chunk : List Outcome} {part : Gathered}
    (absorbs : measuring.absorb reorder chunk = .ok (after, part)) :
    (measuring.gatherAll (reorder.release chunk).1 = .ok part ∧
        after = (reorder.release chunk).2) ∨
      (measuring.gatherAll chunk = .ok part ∧ after = reorder) := by
  unfold absorb at absorbs
  simp only [measureChunk_eq] at absorbs
  split at absorbs
  · cases gathers : measuring.gatherAll (reorder.release chunk).1 with
    | error crash =>
      rw [gathers] at absorbs
      cases absorbs
    | ok found =>
      rw [gathers] at absorbs
      cases absorbs
      exact Or.inl ⟨rfl, rfl⟩
  · cases gathers : measuring.gatherAll chunk with
    | error crash =>
      rw [gathers] at absorbs
      cases absorbs
    | ok found =>
      rw [gathers] at absorbs
      cases absorbs
      exact Or.inr ⟨rfl, rfl⟩

theorem absorbed_absorb {chunks : List (List Outcome)} {chunk : List Outcome}
    {reorder after : Reorder} {gathered part : Gathered}
    (absorbed : measuring.Absorbed chunks reorder gathered)
    (absorbs : measuring.absorb reorder chunk = .ok (after, part)) :
    measuring.Absorbed (chunks ++ [chunk]) after (gathered ++ part) := by
  constructor
  · intro rest
    rw [List.append_assoc, List.singleton_append, absorbed.law, drainFrom, absorbs]
    simp only [bind, Except.bind, pure, Except.pure]
    cases measuring.drainFrom after rest with
    | error crash => rfl
    | ok later => exact congrArg Except.ok (Gathered.append_assoc gathered part later).symm
  · intro row member
    rcases List.mem_append.mp member with early | new
    · exact absorbed.aboutQueries row early
    · obtain ⟨gathers, -⟩ | ⟨gathers, -⟩ := measuring.gatherAll_of_absorb absorbs <;>
        exact measuring.query_of_gatherAll gathers row new

/-- A chunk that makes a metric crash makes everything crash. -/
theorem drain_of_absorb_crash {chunks : List (List Outcome)} {chunk : List Outcome}
    {reorder : Reorder} {gathered : Gathered} {crash : Crash}
    (absorbed : measuring.Absorbed chunks reorder gathered)
    (absorbs : measuring.absorb reorder chunk = .error crash) :
    measuring.drain (chunks ++ [chunk]) = .error crash := by
  rw [absorbed.law, drainFrom, absorbs]
  rfl

/-- At the end, what was gathered and what is held back make up the whole. -/
theorem drain_of_finish {chunks : List (List Outcome)} {reorder : Reorder} {gathered : Gathered}
    (absorbed : measuring.Absorbed chunks reorder gathered) :
    measuring.drain chunks = (do
      let part ← measuring.finish reorder
      return gathered ++ part) := by
  simpa only [List.append_nil, drainFrom] using absorbed.law []

/-- Metrics that never crash measure whatever arrives. -/
theorem exists_drain (calm : Metric.Calm measuring.metrics) (chunks : List (List Outcome)) :
    ∃ gathered, measuring.drain chunks = .ok gathered := by
  rw [drain_eq]
  exact measuring.exists_gatherAll calm _

end Measuring

end Holdout
