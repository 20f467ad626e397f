/-
This file says when the views of the results of a batch agree. Where no query comes twice, each is
either in the table of lists or in that of failures, which hold what the query is looked up by, and
there are as many entries as are counted. Where a query comes twice, they cannot agree: it is looked
up by its first outcome, while the tables hold its last list and its last failure under one name.
-/

import Holdout.Proofs.Batch.Order

namespace Holdout

namespace Results

/-! ### Names in the tables -/

/-- The query of every outcome with a list. -/
def scoredNames (outcomes : List Outcome) : List QueryId :=
  (outcomes.filterMap listOf?).map Prod.fst

/-- The query of every outcome without one. -/
def failedNames (outcomes : List Outcome) : List QueryId :=
  (outcomes.filterMap failureOf?).map Prod.fst

theorem listOf?_eq_some_iff {outcome : Outcome} {query : QueryId} {list : ItemList} :
    listOf? outcome = some (query, list) ↔ outcome.query = query ∧ outcome.result = .ok list := by
  unfold listOf?
  cases outcome.result <;> simp [Except.toOption]

theorem failureOf?_eq_some_iff {outcome : Outcome} {query : QueryId} {error : QueryError} :
    failureOf? outcome = some (query, error) ↔
      outcome.query = query ∧ outcome.result = .error error := by
  unfold failureOf?
  cases outcome.result <;> simp

/-- Every outcome has its query in one of the tables. -/
theorem perm_names (outcomes : List Outcome) :
    (outcomes.map Outcome.query).Perm (scoredNames outcomes ++ failedNames outcomes) := by
  induction outcomes with
  | nil => exact .nil
  | cons outcome rest inductionHypothesis =>
    cases result : outcome.result with
    | ok list =>
      have scored : listOf? outcome = some (outcome.query, list) :=
        listOf?_eq_some_iff.mpr ⟨rfl, result⟩
      have notFailed : failureOf? outcome = none := by rw [failureOf?, result]
      rw [scoredNames, failedNames, List.filterMap_cons_some scored,
        List.filterMap_cons_none notFailed]
      exact inductionHypothesis.cons _
    | error error =>
      have notScored : listOf? outcome = none := by rw [listOf?, result]; rfl
      have failed : failureOf? outcome = some (outcome.query, error) :=
        failureOf?_eq_some_iff.mpr ⟨rfl, result⟩
      rw [scoredNames, failedNames, List.filterMap_cons_none notScored,
        List.filterMap_cons_some failed]
      exact (inductionHypothesis.cons _).trans List.perm_middle.symm

section

variable (results : Results)

theorem length_scored : (results.outcomes.filterMap listOf?).length = results.scoredCount := by
  rw [List.length_filterMap_eq_countP, scoredCount]
  congr 1
  funext outcome
  rw [Outcome.isScored, listOf?]
  cases outcome.result <;> rfl

theorem length_failed : (results.outcomes.filterMap failureOf?).length = results.failedCount := by
  have all := (perm_names results.outcomes).length_eq
  rw [List.length_append, scoredNames, failedNames, List.length_map, List.length_map,
    List.length_map, length_scored] at all
  rw [failedCount, size]
  omega

theorem scoredCount_add_failedCount : results.scoredCount + results.failedCount = results.size := by
  have notMore : results.scoredCount ≤ results.size := List.countP_le_length
  rw [failedCount]
  omega

end

/-! ### Any outcomes -/

/-- The failure of an outcome, if it has no list. -/
def failure? (outcome : Outcome) : Option QueryError :=
  match outcome.result with
  | .ok _ => none
  | .error error => some error

theorem lookup_filterMap_named {Value : Type} (part : Outcome → Option Value)
    (outcomes : List Outcome) (query : QueryId) :
    (outcomes.filterMap fun outcome => (part outcome).map (outcome.query, ·)).lookup query =
      outcomes.findSome? fun outcome => if outcome.query = query then part outcome else none := by
  induction outcomes with
  | nil => rfl
  | cons outcome rest inductionHypothesis =>
    rw [List.filterMap_cons, List.findSome?_cons, ← inductionHypothesis]
    cases present : part outcome with
    | none => simp
    | some value =>
      rw [Option.map_some]
      dsimp only
      rw [lookup_cons_eq_ite]
      by_cases same : outcome.query = query
      · simp [same]
      · simp [same, Ne.symm same]

/-- What the views say of any outcomes, also where a query comes more than once. -/
structure Views (results : Results) : Prop where
  /-- A query is in one of the tables, or in both, exactly if it has an outcome. -/
  known : ∀ query, query ∈ results.lists.names ∨ query ∈ results.failures.names ↔
    ∃ outcome ∈ results.outcomes, outcome.query = query
  first : ∀ query, results.find? query =
    (results.outcomes.find? fun outcome => outcome.query == query).map Outcome.result
  lastList : ∀ query, results.lists.find? query = results.outcomes.reverse.findSome?
    fun outcome => if outcome.query = query then outcome.result.toOption else none
  lastFailure : ∀ query, results.failures.find? query = results.outcomes.reverse.findSome?
    fun outcome => if outcome.query = query then failure? outcome else none
  atMost : results.lists.size ≤ results.scoredCount ∧ results.failures.size ≤ results.failedCount
  counted : results.scoredCount + results.failedCount = results.size

theorem mem_names_iff {results : Results} {query : QueryId} :
    query ∈ results.lists.names ∨ query ∈ results.failures.names ↔
      ∃ outcome ∈ results.outcomes, outcome.query = query := by
  rw [← List.mem_map, (perm_names results.outcomes).mem_iff, List.mem_append, lists, failures,
    Table.mem_names_ofList, Table.mem_names_ofList, scoredNames, failedNames]

theorem views (results : Results) : results.Views := by
  refine ⟨fun query => mem_names_iff, find?_eq results, fun query => ?_, fun query => ?_,
    ⟨?_, ?_⟩, scoredCount_add_failedCount results⟩
  · rw [lists, Table.find?_ofList, ← List.filterMap_reverse]
    exact lookup_filterMap_named (fun outcome => outcome.result.toOption) _ _
  · have named : failureOf? = fun outcome => (failure? outcome).map (outcome.query, ·) := by
      funext outcome
      rw [failureOf?, failure?]
      cases outcome.result <;> rfl
    rw [failures, Table.find?_ofList, ← List.filterMap_reverse, named]
    exact lookup_filterMap_named failure? _ _
  · rw [← length_scored]
    exact Table.size_ofList_le _
  · rw [← length_failed]
    exact Table.size_ofList_le _

/-! ### Views that agree -/

/-- The views of results agree. -/
structure Agree (results : Results) : Prop where
  /-- A query that has an outcome is in exactly one of the tables. -/
  once : ∀ query, (∃ outcome ∈ results.outcomes, outcome.query = query) →
    (query ∈ results.lists.names ↔ query ∉ results.failures.names)
  only : ∀ query, query ∈ results.lists.names ∨ query ∈ results.failures.names →
    ∃ outcome ∈ results.outcomes, outcome.query = query
  found : ∀ query result, results.find? query = some result ↔
    (∃ list, results.lists.find? query = some list ∧ result = .ok list) ∨
      ∃ error, results.failures.find? query = some error ∧ result = .error error
  scored : results.lists.size = results.scoredCount
  failed : results.failures.size = results.failedCount
  counted : results.scoredCount + results.failedCount = results.size

section

variable {results : Results}

theorem distinct_iff : (results.outcomes.map Outcome.query).Nodup ↔
    (scoredNames results.outcomes).Nodup ∧ (failedNames results.outcomes).Nodup ∧
      (scoredNames results.outcomes).Disjoint (failedNames results.outcomes) := by
  rw [(perm_names results.outcomes).nodup_iff, List.nodup_append']

theorem size_lists_iff :
    results.lists.size = results.scoredCount ↔ (scoredNames results.outcomes).Nodup := by
  rw [← length_scored]
  exact Table.size_ofList_eq_iff

theorem size_failures_iff :
    results.failures.size = results.failedCount ↔ (failedNames results.outcomes).Nodup := by
  rw [← length_failed]
  exact Table.size_ofList_eq_iff

/-- Where no query comes twice, it is looked up by its only outcome. -/
theorem find?_eq_some_of_distinct (distinct : (results.outcomes.map Outcome.query).Nodup)
    {query : QueryId} {result : QueryResult} : results.find? query = some result ↔
      ∃ outcome ∈ results.outcomes, outcome.query = query ∧ outcome.result = result := by
  have named : ((results.outcomes.map fun outcome => (outcome.query, outcome.result)).map
      Prod.fst).Nodup := by
    rw [List.map_map]
    exact distinct
  rw [find?_eq, ← Table.lookup_map_pair, lookup_eq_some_iff_mem named, List.mem_map]
  simp only [Prod.mk.injEq]

theorem find?_lists_of_distinct (distinct : (scoredNames results.outcomes).Nodup)
    {query : QueryId} {list : ItemList} : results.lists.find? query = some list ↔
      ∃ outcome ∈ results.outcomes, outcome.query = query ∧ outcome.result = .ok list := by
  rw [Table.find?_eq_some_iff, lists, Table.entries_ofList distinct, List.mem_filterMap]
  simp only [listOf?_eq_some_iff]

theorem find?_failures_of_distinct (distinct : (failedNames results.outcomes).Nodup)
    {query : QueryId} {error : QueryError} : results.failures.find? query = some error ↔
      ∃ outcome ∈ results.outcomes, outcome.query = query ∧ outcome.result = .error error := by
  rw [Table.find?_eq_some_iff, failures, Table.entries_ofList distinct, List.mem_filterMap]
  simp only [failureOf?_eq_some_iff]

theorem agree_of_distinct (distinct : (results.outcomes.map Outcome.query).Nodup) :
    results.Agree := by
  obtain ⟨scored, failed, apart⟩ := distinct_iff.mp distinct
  refine ⟨fun query known => ?_, fun query => mem_names_iff.mp, fun query result => ?_,
    size_lists_iff.mpr scored, size_failures_iff.mpr failed, scoredCount_add_failedCount results⟩
  · have either := mem_names_iff.mpr known
    rw [lists, failures, Table.mem_names_ofList, Table.mem_names_ofList] at either ⊢
    exact ⟨fun listed => apart listed, either.resolve_right⟩
  · rw [find?_eq_some_of_distinct distinct]
    simp only [find?_lists_of_distinct scored, find?_failures_of_distinct failed]
    cases result <;> simp

theorem distinct_of_agree (agree : results.Agree) :
    (results.outcomes.map Outcome.query).Nodup := by
  refine distinct_iff.mpr ⟨size_lists_iff.mp agree.scored, size_failures_iff.mp agree.failed,
    fun query listed failed => ?_⟩
  have inLists : query ∈ results.lists.names := Table.mem_names_ofList.mpr listed
  have inFailures : query ∈ results.failures.names := Table.mem_names_ofList.mpr failed
  exact (agree.once query (agree.only query (Or.inl inLists))).mp inLists inFailures

end

/-- The views of results agree exactly if no query comes twice. Of any outcomes they say at least
which queries there are, the first outcome of each, and its last list and its last failure. -/
theorem views_agree_iff_distinct (outcomes : List Outcome) :
    (Agree (.ofOutcomes outcomes) ↔ (outcomes.map Outcome.query).Nodup) ∧
      Views (.ofOutcomes outcomes) :=
  ⟨⟨distinct_of_agree, @agree_of_distinct (ofOutcomes outcomes)⟩, views _⟩

/-- A query that comes twice is looked up by its first list, while the table holds the second one
only, which is one entry for two lists. -/
theorem repeated_query_disagrees :
    let first : ItemList := ⟨["a"], none, some [1], true⟩
    let second : ItemList := ⟨["b"], none, some [1], true⟩
    let results : Results := .ofOutcomes [⟨0, "q", .ok first⟩, ⟨1, "q", .ok second⟩]
    results.find? "q" = some (.ok first) ∧ results.lists.find? "q" = some second ∧
      results.lists.size = 1 ∧ results.scoredCount = 2 ∧ ¬ results.Agree := by
  intro first second results
  exact ⟨rfl, rfl, rfl, rfl, fun agree => absurd agree.scored (by decide)⟩

end Results

end Holdout
