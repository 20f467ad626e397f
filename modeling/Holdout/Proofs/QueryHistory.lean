/-
This file says what the history of a query records: every item that the query met in training, once
and in the order of the first meetings, and scored by the ratings of these meetings if all of them
have one. The interactions of other queries leave no trace in it, and no builder ever refuses what
is recorded, so nothing has to stand in for it.
-/

import Holdout.Dataset
import Holdout.Proofs.ItemList.Valid
import Holdout.Proofs.Table

namespace Holdout

/-! ### Values that are all there -/

section

variable {Value : Type}

/-- Optional values are collected exactly if they are the collected ones. -/
theorem mapM_id_eq_some_iff {optional : List (Option Value)} {values : List Value} :
    optional.mapM id = some values ↔ optional = values.map some := by
  induction optional generalizing values with
  | nil => cases values <;> simp
  | cons first rest inductionHypothesis =>
    rw [List.mapM_cons]
    cases first with
    | none => cases values <;> simp
    | some value =>
      cases values with
      | nil => cases rest.mapM id <;> simp
      | cons other others =>
        have tail := @inductionHypothesis others
        cases collected : rest.mapM id with
        | none => simp_all
        | some ratings => simp_all

/-- Optional values can be collected exactly if none is missing. -/
theorem isSome_mapM_id_iff {optional : List (Option Value)} :
    (optional.mapM id).isSome = true ↔ ∀ value ∈ optional, value.isSome = true := by
  induction optional with
  | nil => simp
  | cons first rest inductionHypothesis =>
    rw [List.mapM_cons, List.forall_mem_cons, ← inductionHypothesis]
    cases first with
    | none => simp
    | some value => cases rest.mapM id <;> simp

end

namespace Dataset

/-! ### What a query met -/

/-- Some interaction is between this query and this item. -/
def Met (dataset : Dataset) (query : QueryId) (item : ItemId) : Prop :=
  ∃ interaction ∈ dataset.interactions, interaction.query = query ∧ interaction.item = item

/-- The first interaction between a query and an item. -/
def firstMeeting? (dataset : Dataset) (query : QueryId) (item : ItemId) : Option Interaction :=
  dataset.interactions.find? fun interaction =>
    interaction.query == query && interaction.item == item

/-- The rating of the first interaction between a query and an item. -/
def firstRating? (dataset : Dataset) (query : QueryId) (item : ItemId) : Option Float :=
  (dataset.firstMeeting? query item).bind Interaction.rating

/-- A query met one item before another: at some time it had met the one and not yet the other. -/
def MetBefore (dataset : Dataset) (query : QueryId) (first second : ItemId) : Prop :=
  ∃ before after, dataset.interactions = before ++ after ∧ Met ⟨before⟩ query first ∧
    ¬ Met ⟨before⟩ query second

variable {dataset : Dataset} {query : QueryId}

theorem mem_map_item_filter {interactions : List Interaction} {item : ItemId} :
    item ∈ (interactions.filter fun interaction => interaction.query == query).map
      Interaction.item ↔ Met ⟨interactions⟩ query item := by
  simp only [List.mem_map, List.mem_filter, beq_iff_eq, and_assoc, Met]

/-! ### The table of first ratings -/

theorem mem_names_firstRatings {item : ItemId} :
    item ∈ (dataset.firstRatings query).names ↔ dataset.Met query item := by
  rw [firstRatings, Table.mem_names_ofFirsts, List.map_map]
  exact mem_map_item_filter

theorem find?_firstRatings (dataset : Dataset) (query : QueryId) (item : ItemId) :
    (dataset.firstRatings query).find? item =
      (dataset.firstMeeting? query item).map Interaction.rating := by
  rw [firstRatings, Table.find?_ofFirsts, Table.lookup_map_pair, interactionsOf, List.find?_filter]
  simp only [← Bool.and_eq_true, Bool.decide_eq_true]
  rfl

theorem values_firstRatings (dataset : Dataset) (query : QueryId) :
    (dataset.firstRatings query).values =
      (dataset.firstRatings query).names.map (dataset.firstRating? query) := by
  have found := congrArg (List.map Option.join) (dataset.firstRatings query).map_find?_names
  simp only [List.map_map, Function.comp_def, Option.join_some, List.map_id'] at found
  rw [← found]
  refine List.map_congr_left fun item _ => ?_
  rw [find?_firstRatings, firstRating?]
  cases dataset.firstMeeting? query item <;> rfl

theorem pairwise_names_firstRatings (dataset : Dataset) (query : QueryId) :
    (dataset.firstRatings query).names.Pairwise (dataset.MetBefore query) := by
  refine (Table.pairwise_names_ofFirsts _).imp fun {first second} apart => ?_
  obtain ⟨offered, others, pairs, known, unknown⟩ := apart
  obtain ⟨own, _, split, rfl, -⟩ := List.map_eq_append_iff.mp pairs
  obtain ⟨before, after, interactions, rfl, -⟩ := List.filter_eq_append_iff.mp split
  rw [List.map_map] at known unknown
  exact ⟨before, after, interactions, mem_map_item_filter.mp known, fun met =>
    unknown (mem_map_item_filter.mpr met)⟩

/-! ### The history -/

theorem unordered_firstRatings (dataset : Dataset) (query : QueryId) :
    ItemList.unordered (dataset.firstRatings query).names =
      .ok ⟨(dataset.firstRatings query).names, none, none, false⟩ :=
  ItemList.ofIds_eq_ok_iff.mpr ⟨(dataset.firstRatings query).distinct, rfl⟩

theorem withScores_firstRatings {ratings : List Float}
    (collected : (dataset.firstRatings query).values.mapM id = some ratings) :
    (⟨(dataset.firstRatings query).names, none, none, false⟩ : ItemList).withScores ratings =
      .ok ⟨(dataset.firstRatings query).names, some ratings, none, false⟩ := by
  refine if_pos ?_
  rw [← List.length_map some, ← mapM_id_eq_some_iff.mp collected, Table.names, Table.values,
    List.length_map, List.length_map]

theorem historyOf_eq (dataset : Dataset) (query : QueryId) :
    dataset.historyOf query =
      ⟨(dataset.firstRatings query).names,
        if (dataset.firstRatings query).names = [] then none
        else (dataset.firstRatings query).values.mapM id, none, false⟩ := by
  simp only [historyOf, unordered_firstRatings, Except.toOption, Option.getD_some]
  cases collected : (dataset.firstRatings query).values.mapM id with
  | none => simp
  | some ratings =>
    have together : (dataset.firstRatings query).names = [] ↔ ratings = [] := by
      have values := mapM_id_eq_some_iff.mp collected
      rw [values_firstRatings] at values
      rw [← List.map_eq_nil_iff, values, List.map_eq_nil_iff]
    by_cases nothing : ratings = []
    · simp [nothing, together.mpr nothing]
    · simp [nothing, mt together.mp nothing, withScores_firstRatings collected]

/-- A list records what a query met in training. -/
structure Records (dataset : Dataset) (query : QueryId) (history : ItemList) : Prop where
  unordered : history.ordered = false
  unranked : history.ranks = none
  distinct : history.ids.Nodup
  met : ∀ item, item ∈ history.ids ↔ dataset.Met query item
  inOrder : history.ids.Pairwise (dataset.MetBefore query)
  /-- There are scores if the query met anything and every first meeting has a rating. -/
  rated : history.scores.isSome = true ↔ (∃ item, dataset.Met query item) ∧
    ∀ item, dataset.Met query item → (dataset.firstRating? query item).isSome = true
  scored : ∀ scores, history.scores = some scores →
    scores.map some = history.ids.map (dataset.firstRating? query)

theorem records_historyOf (dataset : Dataset) (query : QueryId) :
    dataset.Records query (dataset.historyOf query) := by
  rw [historyOf_eq]
  refine ⟨rfl, rfl, (dataset.firstRatings query).distinct, fun item => mem_names_firstRatings,
    pairwise_names_firstRatings dataset query, ?_, fun scores given => ?_⟩
  · have something :
        (∃ item, dataset.Met query item) ↔ (dataset.firstRatings query).names ≠ [] := by
      simp [← mem_names_firstRatings, List.eq_nil_iff_forall_not_mem]
    rw [something]
    by_cases nothing : (dataset.firstRatings query).names = []
    · simp [nothing]
    · simp only [nothing, if_false, isSome_mapM_id_iff, values_firstRatings, List.forall_mem_map,
        mem_names_firstRatings, ne_eq, not_false_eq_true, true_and]
  · dsimp only at given ⊢
    split_ifs at given
    rw [← mapM_id_eq_some_iff.mp given, values_firstRatings]

@[simp] theorem mem_historyOf {item : ItemId} :
    item ∈ (dataset.historyOf query).ids ↔ dataset.Met query item :=
  (records_historyOf dataset query).met item

/-- No check refuses the items of a history or its scores. -/
theorem valid_historyOf (dataset : Dataset) (query : QueryId) :
    (dataset.historyOf query).Valid := by
  have records := records_historyOf dataset query
  refine .of_ranksTo records.distinct (fun scores given => ?_) (Or.inl records.unranked)
  simpa using congrArg List.length (records.scored scores given)

/-- The history of a query records its first meetings. It depends on the interactions of the query
alone, and the builders accept its items and, where they are all there, its ratings. -/
theorem history_of_first_meetings (dataset : Dataset) (query : QueryId) :
    dataset.Records query (dataset.historyOf query) ∧
    (∀ other : Dataset, other.interactionsOf query = dataset.interactionsOf query →
      other.historyOf query = dataset.historyOf query) ∧
    ∃ list, ItemList.unordered (dataset.firstRatings query).names = .ok list ∧
      ∀ ratings, (dataset.firstRatings query).values.mapM id = some ratings →
        ∃ scored, list.withScores ratings = .ok scored := by
  refine ⟨records_historyOf dataset query, fun other same => ?_, _,
    unordered_firstRatings dataset query, fun ratings collected =>
      ⟨_, withScores_firstRatings collected⟩⟩
  rw [historyOf, historyOf, firstRatings, firstRatings, same]

theorem history_of_first_meetings_repeated :
    let dataset : Dataset := ⟨[⟨"u", "b", some 4⟩, ⟨"v", "c", none⟩, ⟨"u", "a", some 3⟩,
      ⟨"v", "a", some 1⟩, ⟨"u", "b", none⟩]⟩
    let own : Dataset := ⟨[⟨"u", "b", some 4⟩, ⟨"u", "a", some 3⟩, ⟨"u", "b", none⟩]⟩
    dataset.Records "u" ⟨["b", "a"], some [4, 3], none, false⟩ ∧
    own.historyOf "u" = dataset.historyOf "u" ∧
    ∃ list scored, ItemList.unordered (dataset.firstRatings "u").names = .ok list ∧
      list.withScores [4, 3] = .ok scored := by
  intro dataset own
  obtain ⟨records, alone, list, builds, attaches⟩ := history_of_first_meetings dataset "u"
  obtain ⟨scored, withScores⟩ := attaches [4, 3] rfl
  exact ⟨records, alone own rfl, list, scored, builds, withScores⟩

end Dataset

end Holdout
