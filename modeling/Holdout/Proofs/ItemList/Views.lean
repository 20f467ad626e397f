/-
This file shows how ranking by score goes together with the other views of a list. A ranking is the
one way to put the scored items of a list in order, so it does not matter in which order they stood
before, whether a ranking is cut at once or later, whether it is ranked once more, or whether items
are excluded before or after.
-/

import Holdout.Proofs.ItemList.Ranking

namespace Holdout

namespace ItemList

/-! ### Scored items in order -/

section

variable {pairs others : List (ItemId × Float)}

theorem precedes_of_leads {first second : ItemId × Float} (leads : Leads first second) :
    precedes first second = true :=
  (precedes_iff_standing first second).mpr (leads_iff_standing.mp leads).le

/-- Scored items in order stay as they are when they are sorted. -/
theorem mergeSort_of_pairwise (strict : pairs.Pairwise Leads) : pairs.mergeSort precedes = pairs :=
  List.mergeSort_of_pairwise (strict.imp precedes_of_leads)

/-- The same scored items have the same order, however they stood. -/
theorem mergeSort_eq_of_perm (distinct : (pairs.map Prod.fst).Nodup) (perm : pairs.Perm others) :
    pairs.mergeSort precedes = others.mergeSort precedes :=
  Sorting.mergeSort_eq_of_perm precedes_iff_standing (nodup_standings distinct) perm

theorem filter_mergeSort (distinct : (pairs.map Prod.fst).Nodup) (kept : ItemId × Float → Bool) :
    (pairs.mergeSort precedes).filter kept = (pairs.filter kept).mergeSort precedes := by
  -- What is left of a strict order is one, so sorting it again changes nothing.
  have strict := (pairwise_leads_mergeSort distinct).filter kept
  have perm := (pairs.mergeSort_perm precedes).filter kept
  have left : (((pairs.mergeSort precedes).filter kept).map Prod.fst).Nodup :=
    (perm.map Prod.fst).nodup_iff.mpr (distinct.sublist (List.filter_sublist.map Prod.fst))
  calc (pairs.mergeSort precedes).filter kept
      = ((pairs.mergeSort precedes).filter kept).mergeSort precedes :=
        (mergeSort_of_pairwise strict).symm
    _ = (pairs.filter kept).mergeSort precedes := mergeSort_eq_of_perm left perm

end

/-! ### Limits -/

/-- The lesser of two limits; without a limit there is no least. -/
def lesserLimit : Option Nat → Option Nat → Option Nat
  | none, limit => limit
  | some count, none => some count
  | some count, some other => some (min count other)

theorem cut_cut {Element : Type} (limit again : Option Nat) (elements : List Element) :
    cut again (cut limit elements) = cut (lesserLimit limit again) elements := by
  match limit, again with
  | none, _ => rfl
  | some count, none => rfl
  | some count, some other =>
    show (elements.take count).take other = elements.take (min count other)
    rw [List.take_take, Nat.min_comm]

/-! ### Views of a ranking -/

section

variable (pairs : List (ItemId × Float))

theorem pairs?_ofRanking : (ofRanking pairs).pairs? = some pairs := by
  show some ((pairs.map Prod.fst).zip (pairs.map Prod.snd)) = some pairs
  rw [List.zip_map', List.map_id']

theorem top_ofRanking (count : Nat) :
    (ofRanking pairs).top count = .ok (ofRanking (pairs.take count)) := by
  have size : (ofRanking pairs).size = pairs.length := List.length_map _
  rcases Nat.lt_or_ge count pairs.length with long | short
  · have ranks : (ranksTo pairs.length).take count = ranksTo (pairs.take count).length := by
      rw [List.length_take_of_le long.le]
      exact List.take_range'_of_length_ge long.le
    rw [top_of_long rfl (long.trans_eq size.symm)]
    simp only [ofRanking, Option.map_some, List.map_take, ranks]
  · rw [top_of_short (size.trans_le short), List.take_of_length_le short]

theorem without_ofRanking (excluded : ItemList) :
    (ofRanking pairs).without excluded =
      ofRanking (pairs.filter fun pair => !excluded.contains pair.1) := by
  have ids : (pairs.map Prod.fst).filter (fun item => !excluded.contains item) =
      (pairs.filter fun pair => !excluded.contains pair.1).map Prod.fst := List.filter_map
  simp only [without, ofRanking, ids, keepBeside_map, List.length_map, Option.map_some,
    Option.isSome_some, Bool.and_self, if_true]

end

/-- The scored items that are left are those that were not excluded. -/
theorem Valid.pairs?_without {list : ItemList} {pairs : List (ItemId × Float)} (valid : list.Valid)
    (given : list.pairs? = some pairs) (excluded : ItemList) :
    (list.without excluded).pairs? =
      some (pairs.filter fun pair => !excluded.contains pair.1) := by
  obtain ⟨ids, scores⟩ := valid.pairs_eq given
  have left : (pairs.map Prod.fst).filter (fun item => !excluded.contains item) =
      (pairs.filter fun pair => !excluded.contains pair.1).map Prod.fst := List.filter_map
  simp only [pairs?, without, scores, ← ids, left, keepBeside_map, Option.map_some,
    List.zip_map', List.map_id']

theorem rankTop_eq {list : ItemList} {pairs : List (ItemId × Float)}
    (given : list.pairs? = some pairs) (limit : Option Nat) :
    list.rankTop limit = .ok (ofRanking (cut limit (pairs.mergeSort precedes))) :=
  rankTop_eq_ok_iff.mpr ⟨pairs, given, rfl⟩

/-! ### Rankings and the pairs they are made of -/

/-- A list can be ranked, and nothing but its scored items and the limit says how. -/
structure RankedByPairs (list : ItemList) : Prop where
  succeeds : ∀ limit, ∃ ranking, list.rankTop limit = .ok ranking
  /-- A list that holds the same scored items, in any order, has the same rankings. -/
  pairsOnly : ∀ other : ItemList, other.Valid →
    (∃ pairs others, list.pairs? = some pairs ∧ other.pairs? = some others ∧
      ∀ pair, pair ∈ pairs ↔ pair ∈ others) →
    ∀ limit, other.rankTop limit = list.rankTop limit
  /-- A ranking may be cut at once or later. -/
  cut : ∀ count, list.rankTop (some count) = list.rankTop none >>= (·.top count)
  /-- A ranking that is ranked again is only cut again. -/
  again : ∀ limit next,
    (list.rankTop limit >>= (·.rankTop next)) = list.rankTop (lesserLimit limit next)

/-- How a list is ranked depends on the set of its scored items alone, and a ranking that is cut or
ranked again is a ranking of the same list. -/
theorem ranking_of_pairs {list : ItemList} (valid : list.Valid) {scores : List Float}
    (scored : list.scores = some scores) : list.RankedByPairs := by
  obtain ⟨pairs, given⟩ : ∃ pairs, list.pairs? = some pairs :=
    ⟨_, by rw [pairs?, scored, Option.map_some]⟩
  have distinct : (pairs.map Prod.fst).Nodup := (valid.pairs_eq given).1 ▸ valid.distinct
  refine ⟨fun limit => ⟨_, rankTop_eq given limit⟩, fun other validOther same limit => ?_,
    fun count => ?_, fun limit next => ?_⟩
  · obtain ⟨scoredItems, others, isGiven, givenOther, same⟩ := same
    obtain rfl : scoredItems = pairs := Option.some.inj (isGiven.symm.trans given)
    have distinctOther : (others.map Prod.fst).Nodup :=
      (validOther.pairs_eq givenOther).1 ▸ validOther.distinct
    have perm : scoredItems.Perm others :=
      (List.perm_ext_iff_of_nodup distinct.of_map distinctOther.of_map).mpr same
    rw [rankTop_eq givenOther, rankTop_eq given, mergeSort_eq_of_perm distinct perm]
  · rw [rankTop_eq given, rankTop_eq given]
    exact (top_ofRanking _ count).symm
  · -- The first ranking is in order already, and so is what is left of it.
    have ordered : (ItemList.cut limit (pairs.mergeSort precedes)).mergeSort precedes =
        ItemList.cut limit (pairs.mergeSort precedes) :=
      mergeSort_of_pairwise ((pairwise_leads_mergeSort distinct).sublist (cut_sublist _ _))
    calc (list.rankTop limit >>= (·.rankTop next))
        = (ofRanking (ItemList.cut limit (pairs.mergeSort precedes))).rankTop next := by
          rw [rankTop_eq given]
          rfl
      _ = .ok (ofRanking (ItemList.cut next (ItemList.cut limit (pairs.mergeSort precedes)))) := by
          rw [rankTop_eq (pairs?_ofRanking _), ordered]
      _ = list.rankTop (lesserLimit limit next) := by rw [cut_cut, rankTop_eq given]

/-- Both zeros are level, and so are two scores that are no numbers. -/
theorem ranking_of_pairs_level :
    (⟨["d", "c", "b", "a"], some [0.0 / 0.0, 0.0, -0.0, 0.0 / 0.0], none, false⟩ :
        ItemList).RankedByPairs ∧
      (⟨["a", "b", "c", "d"], some [0.0 / 0.0, -0.0, 0.0, 0.0 / 0.0], none, true⟩ :
          ItemList).rankTop (some 3) =
        (⟨["d", "c", "b", "a"], some [0.0 / 0.0, 0.0, -0.0, 0.0 / 0.0], none, false⟩ :
          ItemList).rankTop (some 3) := by
  have ranked : (⟨["d", "c", "b", "a"], some [0.0 / 0.0, 0.0, -0.0, 0.0 / 0.0], none, false⟩ :
      ItemList).RankedByPairs :=
    ranking_of_pairs (.of_ranksTo (by decide) (by simp) (Or.inl rfl)) rfl
  refine ⟨ranked, ranked.pairsOnly _ (.of_ranksTo (by decide) (by simp) (Or.inl rfl))
    ⟨_, _, rfl, rfl, fun pair => ?_⟩ _⟩
  simp only [List.zip_cons_cons, List.zip_nil_right, List.mem_cons, List.not_mem_nil]
  tauto

/-! ### Excluding items -/

/-- A ranking that begins another: the same items with the same scores, as far as it goes, and
ranks of its own from one. -/
structure Begins (ranking longer : ItemList) : Prop where
  ordered : ranking.ordered = true ∧ longer.ordered = true
  ids : ranking.ids <+: longer.ids
  scores : ∃ scores all, ranking.scores = some scores ∧ longer.scores = some all ∧ scores <+: all ∧
    scores.length = ranking.size
  ranks : ranking.ranks = some (ranksTo ranking.size)

theorem begins_ofRanking {pairs others : List (ItemId × Float)} (begins : pairs <+: others) :
    Begins (ofRanking pairs) (ofRanking others) where
  ordered := ⟨rfl, rfl⟩
  ids := begins.map Prod.fst
  scores := ⟨_, _, rfl, rfl, begins.map Prod.snd, by simp [ofRanking, size]⟩
  ranks := by simp [ofRanking, size]

theorem begins_filter_take {Element : Type} (kept : Element → Bool) (count : Nat)
    (elements : List Element) :
    (elements.take count).filter kept <+: (elements.filter kept).take count := by
  have begins : (elements.take count).filter kept <+: elements.filter kept :=
    (List.take_prefix count elements).filter kept
  have few : ((elements.take count).filter kept).length ≤ count :=
    (List.length_filter_le _ _).trans (List.length_take_le _ _)
  exact List.prefix_take_iff.mpr ⟨begins, few⟩

/-- Items may be excluded before or after a ranking. If the ranking is cut, what is left of it
begins the ranking of what is left. -/
theorem rankTop_without {list : ItemList} (valid : list.Valid) {scores : List Float}
    (scored : list.scores = some scores) (excluded : ItemList) :
    (∃ ranking, list.rankTop none = .ok ranking ∧
      (list.without excluded).rankTop none = .ok (ranking.without excluded)) ∧
    ∀ count, ∃ ranking longer, list.rankTop (some count) = .ok ranking ∧
      (list.without excluded).rankTop (some count) = .ok longer ∧
      Begins (ranking.without excluded) longer := by
  obtain ⟨pairs, given⟩ : ∃ pairs, list.pairs? = some pairs :=
    ⟨_, by rw [pairs?, scored, Option.map_some]⟩
  have distinct : (pairs.map Prod.fst).Nodup := (valid.pairs_eq given).1 ▸ valid.distinct
  have left := valid.pairs?_without given excluded
  constructor
  · refine ⟨_, rankTop_eq given none, ?_⟩
    rw [rankTop_eq left, without_ofRanking]
    simp only [ItemList.cut, filter_mergeSort distinct]
  · intro count
    refine ⟨_, _, rankTop_eq given _, rankTop_eq left _, ?_⟩
    rw [without_ofRanking, ← filter_mergeSort distinct]
    exact begins_ofRanking (begins_filter_take _ count _)

/-- The best item is excluded, so that another one comes into the ranking that is cut later. -/
theorem rankTop_without_best : ∃ ranking longer,
    (⟨["a", "b", "c"], some [2.0, 3.0, 2.0], none, false⟩ : ItemList).rankTop (some 2) =
        .ok ranking ∧
      ((⟨["a", "b", "c"], some [2.0, 3.0, 2.0], none, false⟩ : ItemList).without
        ⟨["b"], none, none, false⟩).rankTop (some 2) = .ok longer ∧
      Begins (ranking.without ⟨["b"], none, none, false⟩) longer :=
  (rankTop_without (@valid_scored [("a", 2.0), ("b", 3.0), ("c", 2.0)] _ rfl) rfl _).2 2

end ItemList

end Holdout
