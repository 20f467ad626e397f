/-
This file shows that a split keeps what it tests apart from what it trains on, and loses nothing
else. The training data is the source without the held-out pairs. So the history of a test query
never holds one of its reference items, and the candidates of the query, which are the catalog
without its history, hold every reference item that a scorer could have learned of.
-/

import Holdout.Candidates
import Holdout.Proofs.Names
import Holdout.Proofs.QueryHistory
import Holdout.Proofs.Sorting

namespace Holdout

theorem nodup_eraseDups : ∀ names : List String, names.eraseDups.Nodup
  | [] => List.nodup_nil
  | name :: rest => by
    rw [List.eraseDups_cons, List.nodup_cons]
    refine ⟨fun member => ?_, nodup_eraseDups _⟩
    have different := (List.mem_filter.mp (List.mem_eraseDups.mp member)).2
    simp at different
termination_by names => names.length
decreasing_by exact Nat.lt_succ_of_le (List.length_filter_le _ _)

theorem eraseDups_of_nodup {names : List String} (distinct : names.Nodup) :
    names.eraseDups = names := by
  induction names with
  | nil => rfl
  | cons name rest inductionHypothesis =>
    obtain ⟨fresh, distinctRest⟩ := List.nodup_cons.mp distinct
    have others : rest.filter (fun other => !other == name) = rest := by
      rw [List.filter_eq_self]
      intro other member
      simpa using fun same : other = name => fresh (same ▸ member)
    rw [List.eraseDups_cons, others, inductionHypothesis distinctRest]

/-! ### Training data -/

namespace Dataset

/-- Some interaction is with this item. -/
def Offers (dataset : Dataset) (item : ItemId) : Prop :=
  ∃ interaction ∈ dataset.interactions, interaction.item = item

/-- Some interaction is of this query. -/
def Knows (dataset : Dataset) (query : QueryId) : Prop :=
  ∃ interaction ∈ dataset.interactions, interaction.query = query

@[simp] theorem mem_items {dataset : Dataset} {item : ItemId} :
    item ∈ dataset.items ↔ dataset.Offers item := by
  rw [items, (List.mergeSort_perm _ _).mem_iff, List.mem_eraseDups, List.mem_map, Offers]

/-- The catalog is in the order of the names, and no item is there twice. -/
theorem pairwise_items (dataset : Dataset) : dataset.items.Pairwise (· < ·) := by
  have distinct := nodup_eraseDups (dataset.interactions.map Interaction.item)
  rw [← List.map_id (List.eraseDups _)] at distinct
  exact Sorting.strict_mergeSort (fun _ _ => decide_eq_true_iff) distinct

theorem unordered_items (dataset : Dataset) :
    ItemList.unordered dataset.items = .ok ⟨dataset.items, none, none, false⟩ :=
  ItemList.ofIds_eq_ok_iff.mpr ⟨(pairwise_items dataset).imp ne_of_lt, rfl⟩

/-- The builder takes the items, so no empty list stands in for them. -/
theorem catalog_eq (dataset : Dataset) :
    dataset.catalog = ⟨dataset.items, none, none, false⟩ := by
  rw [catalog, unordered_items]
  rfl

theorem valid_catalog (dataset : Dataset) : dataset.catalog.Valid := by
  rw [catalog_eq]
  exact ItemList.valid_ofIds (unordered_items dataset)

@[simp] theorem mem_catalog {dataset : Dataset} {item : ItemId} :
    item ∈ dataset.catalog.ids ↔ dataset.Offers item := by
  rw [catalog_eq, mem_items]

end Dataset

/-! ### Held-out pairs -/

namespace Split

/-- The query is tested with this item. -/
def Tests (test : Table ItemList) (query : QueryId) (item : ItemId) : Prop :=
  ∃ reference, (query, reference) ∈ test.entries ∧ item ∈ reference.ids

theorem isHeldOut_iff {test : Table ItemList} {interaction : Interaction} :
    isHeldOut test interaction = true ↔ Tests test interaction.query interaction.item := by
  unfold isHeldOut Tests
  simp only [← Table.find?_eq_some_iff]
  cases test.find? interaction.query with
  | none => simp
  | some reference => simp [ItemList.contains]

instance (test : Table ItemList) (interaction : Interaction) :
    Decidable (Tests test interaction.query interaction.item) :=
  decidable_of_iff _ isHeldOut_iff

/-- The first of some queries that a source does not know. -/
def FirstUnknown (source : Dataset) (queries : List QueryId) (query : QueryId) : Prop :=
  ∃ before after, queries = before ++ query :: after ∧
    (∀ earlier ∈ before, source.Knows earlier) ∧ ¬ source.Knows query

section

variable {id : String} {source : Dataset} {test : Table ItemList}

theorem contains_iff_knows {query : QueryId} :
    (source.interactions.map Interaction.query).contains query = true ↔ source.Knows query := by
  rw [List.contains_iff_mem, List.mem_map, Dataset.Knows]

theorem find?_unknown_iff {queries : List QueryId} {query : QueryId} :
    (queries.find? fun query => !(source.interactions.map Interaction.query).contains query) =
      some query ↔ FirstUnknown source queries query := by
  rw [List.find?_eq_some_iff_append, Bool.not_eq_true', ← Bool.not_eq_true, contains_iff_knows,
    FirstUnknown]
  simp only [Bool.not_not, contains_iff_knows]
  constructor
  · rintro ⟨unknown, before, after, queries, known⟩
    exact ⟨before, after, queries, known, unknown⟩
  · rintro ⟨before, after, queries, known, unknown⟩
    exact ⟨unknown, before, after, queries, known⟩

/-- A split is refused for the first test query that the source does not know, and only for that. -/
theorem ofSource_eq_error_iff {error : DataError} :
    ofSource id source test = .error error ↔
      ∃ query, FirstUnknown source test.names query ∧ error = .unknownQuery query := by
  simp only [ofSource, ← find?_unknown_iff]
  cases test.names.find? _ <;> simp [eq_comm]

theorem exists_error_iff : (∃ error, ofSource id source test = .error error) ↔
    ∃ query ∈ test.names, ¬ source.Knows query := by
  simp only [ofSource_eq_error_iff]
  constructor
  · rintro ⟨_, query, ⟨before, after, names, -, unknown⟩, -⟩
    rw [names]
    exact ⟨query, List.mem_append_right _ List.mem_cons_self, unknown⟩
  · rintro ⟨query, member, unknown⟩
    cases found : test.names.find? fun query =>
        !(source.interactions.map Interaction.query).contains query with
    | some first => exact ⟨_, first, find?_unknown_iff.mp found, rfl⟩
    | none =>
      have known := List.find?_eq_none.mp found query member
      rw [Bool.not_eq_true', Bool.not_eq_false, contains_iff_knows] at known
      exact absurd known unknown

theorem ofSource_eq_ok {split : Split} (builds : ofSource id source test = .ok split) :
    split = ⟨id, ⟨source.interactions.filter fun interaction =>
      decide (¬ Tests test interaction.query interaction.item)⟩, test⟩ := by
  have sameFilter : (fun interaction : Interaction =>
      decide (¬ Tests test interaction.query interaction.item)) =
        fun interaction => !isHeldOut test interaction := by
    funext interaction
    rw [decide_not, Bool.not_inj_iff, Bool.eq_iff_iff, decide_eq_true_iff, isHeldOut_iff]
  rw [sameFilter]
  simp only [ofSource] at builds
  split at builds
  · cases builds
  · exact (Except.ok.inj builds).symm

end

/-! ### What a query is tested with -/

/-- A query that is tested with a reference, carrying a history and offered candidates, was not
trained with what it is tested with. -/
structure Separated (train : Dataset) (query : Query) (reference history candidates : ItemList) :
    Prop where
  valid : history.Valid ∧ candidates.Valid
  carried : query.history = some history
  met : ∀ item, item ∈ history.ids ↔ train.Met query.id item
  apart : ∀ item ∈ history.ids, item ∉ reference.ids
  ascending : candidates.ids.Pairwise fun first second => Names.bytes first < Names.bytes second
  offered : ∀ item, item ∈ candidates.ids ↔ train.Offers item ∧ item ∉ history.ids
  /-- No reference item is lost that a scorer could have learned of. -/
  found : ∀ item ∈ reference.ids, train.Offers item → item ∈ candidates.ids
  fresh : ∀ item, train.Met query.id item → item ∉ candidates.ids

theorem not_met_of_tests {source : Dataset} {test : Table ItemList} {query : QueryId}
    {item : ItemId} (tests : Tests test query item) :
    ¬ Dataset.Met ⟨source.interactions.filter fun interaction =>
      decide (¬ Tests test interaction.query interaction.item)⟩ query item := by
  rintro ⟨interaction, member, rfl, rfl⟩
  exact of_decide_eq_true (List.mem_filter.mp member).2 tests

theorem separated {train : Dataset} {query : QueryId} {reference : ItemList}
    (apart : ∀ item ∈ reference.ids, ¬ train.Met query item) :
    Separated train ⟨query, some (train.historyOf query), none⟩ reference (train.historyOf query)
      ((CandidatePool.ofDataset .unrated train).select
        ⟨query, some (train.historyOf query), none⟩) := by
  have offered (item : ItemId) : item ∈ ((CandidatePool.ofDataset .unrated train).select
      ⟨query, some (train.historyOf query), none⟩).ids ↔
        train.Offers item ∧ item ∉ (train.historyOf query).ids := by
    show item ∈ train.catalog.ids.filter _ ↔ _
    rw [List.mem_filter, Dataset.mem_catalog]
    simp [ItemList.contains]
  have valid : ((CandidatePool.ofDataset .unrated train).select
      ⟨query, some (train.historyOf query), none⟩).Valid :=
    ItemList.valid_without _ train.valid_catalog
  refine ⟨⟨train.valid_historyOf query, valid⟩, rfl, fun item => Dataset.mem_historyOf,
    fun item member tested => ?_, ?_, offered,
    fun item tested offers => ?_, fun item met member => ?_⟩
  · exact apart item tested (Dataset.mem_historyOf.mp member)
  · refine List.Pairwise.filter _ ?_
    show train.catalog.ids.Pairwise _
    rw [Dataset.catalog_eq]
    exact train.pairwise_items.imp Names.bytes_lt_bytes.mpr
  · exact (offered item).mpr ⟨offers, fun member =>
      apart item tested (Dataset.mem_historyOf.mp member)⟩
  · exact ((offered item).mp member).2 (Dataset.mem_historyOf.mpr met)

/-- A split is refused exactly for its first unknown query. A split that is made trains on the
source without the held-out pairs, and every query of it is tested apart from its training. -/
theorem ofSource_separates (id : String) (source : Dataset) (test : Table ItemList) :
    ((∃ error, ofSource id source test = .error error) ↔
      ∃ query ∈ test.names, ¬ source.Knows query) ∧
    (∀ error, ofSource id source test = .error error ↔
      ∃ query, FirstUnknown source test.names query ∧ error = .unknownQuery query) ∧
    ∀ split, ofSource id source test = .ok split →
      split.id = id ∧ split.test = test ∧
      split.train.interactions = source.interactions.filter (fun interaction =>
        decide (¬ Tests test interaction.query interaction.item)) ∧
      split.queries.map Query.id = test.names ∧
      ∀ query ∈ split.queries, ∃ reference history, (query.id, reference) ∈ test.entries ∧
        Separated split.train query reference history
          ((CandidatePool.ofDataset .unrated split.train).select query) := by
  refine ⟨exists_error_iff, fun error => ofSource_eq_error_iff, fun split builds => ?_⟩
  cases ofSource_eq_ok builds
  refine ⟨rfl, rfl, rfl, ?_, fun query member => ?_⟩
  · rw [queries, List.map_map]
    exact List.map_id' _
  · obtain ⟨name, named, rfl⟩ := List.mem_map.mp member
    obtain ⟨⟨_, reference⟩, entry, rfl⟩ := List.mem_map.mp named
    exact ⟨reference, _, entry, separated fun item tested =>
      not_met_of_tests ⟨reference, entry, tested⟩⟩

theorem ofSource_separates_pair : ∃ split query,
    ofSource "s" ⟨[⟨"u", "a", none⟩, ⟨"v", "b", none⟩, ⟨"u", "b", none⟩]⟩
      (Table.empty.put "u" ⟨["b"], none, none, false⟩) = .ok split ∧ query ∈ split.queries ∧
    ∃ reference history,
      (query.id, reference) ∈ (Table.empty.put "u" ⟨["b"], none, none, false⟩).entries ∧
        Separated split.train query reference history
          ((CandidatePool.ofDataset .unrated split.train).select query) := by
  have separates := (ofSource_separates "s"
    ⟨[⟨"u", "a", none⟩, ⟨"v", "b", none⟩, ⟨"u", "b", none⟩]⟩
    (Table.empty.put "u" ⟨["b"], none, none, false⟩)).2.2 _ rfl
  exact ⟨_, _, rfl, List.mem_cons_self, separates.2.2.2.2 _ List.mem_cons_self⟩

end Split

end Holdout
