/-
This file shows that scoring by popularity and popularity ranks put items in the same order. Ranks
are counted out after the items are sorted by whole numbers; scores are doubles, and a ranking sorts
them for itself. As long as doubles hold the counts exactly, what stands first for the one stands
first for the other, and a strict order is all that sorting has to go by.
-/

import Holdout.Proofs.Double.Counts
import Holdout.Proofs.ItemList.Views
import Holdout.Proofs.Popularity
import Holdout.Scorer.Popularity

namespace Holdout

namespace Popularity

section

variable {dataset : Dataset}

/-! ### Counts as scores -/

/-- An item with the number of its interactions for a score. -/
def withCount (dataset : Dataset) (item : ItemId) : ItemId × Float :=
  (item, Float.ofNat (dataset.countOf item))

theorem map_fst_withCount (dataset : Dataset) (items : List ItemId) :
    (items.map (withCount dataset)).map Prod.fst = items := by
  rw [List.map_map]
  exact List.map_id _

/-- The more popular of two items stands first by score, if doubles hold the counts. -/
theorem leads_of_morePopular (small : dataset.size < 2 ^ 53) {first second : ItemId}
    (offered : dataset.Offers second)
    (before : Dataset.MorePopular (first, dataset.countOf first)
      (second, dataset.countOf second)) :
    ItemList.Leads (withCount dataset first) (withCount dataset second) := by
  have fits (item : ItemId) : dataset.countOf item < 2 ^ 53 :=
    (dataset.countOf_le_size item).trans_lt small
  rcases before with fewer | ⟨same, lesser⟩
  · have counted : 0 < dataset.countOf second :=
      Nat.pos_of_ne_zero (Dataset.countOf_ne_zero_iff.mpr offered)
    have holds := Double.holds_ofNat counted (fits second)
    have holdsGreater := Double.holds_ofNat (counted.trans fewer) (fits first)
    exact Or.inl (Or.inl (Double.lt_of_holds holds holdsGreater (Nat.cast_lt.mpr fewer)))
  · have level : Score.Level (withCount dataset first).2 (withCount dataset second).2 :=
      Score.level_iff_place.mpr (congrArg (Score.place ∘ Float.ofNat) same)
    exact Or.inr ⟨level, lesser⟩

/-! ### Candidates in order -/

/-- The candidates that occur in the data, the most popular ones first. -/
def inOrder (dataset : Dataset) (candidates : ItemList) : List ItemId :=
  dataset.byPopularity.filter candidates.contains

theorem mem_inOrder {candidates : ItemList} {item : ItemId} :
    item ∈ inOrder dataset candidates ↔ item ∈ candidates.ids ∧ dataset.Offers item := by
  rw [inOrder, List.mem_filter, Dataset.mem_byPopularity, ItemList.contains,
    List.contains_iff_mem, and_comm]

theorem nodup_inOrder (dataset : Dataset) (candidates : ItemList) :
    (inOrder dataset candidates).Nodup :=
  (Dataset.nodup_byPopularity dataset).filter _

/-- The items that are scored are the ones that popularity puts in order. -/
theorem perm_counted {candidates : ItemList} (distinct : candidates.ids.Nodup) :
    (counted dataset candidates).Perm ((inOrder dataset candidates).map (withCount dataset)) := by
  refine List.Perm.map _ ?_
  rw [List.perm_ext_iff_of_nodup (distinct.filter _) (nodup_inOrder dataset candidates)]
  intro item
  rw [mem_inOrder, List.mem_filter, bne_iff_ne, Dataset.countOf_ne_zero_iff]

theorem nodup_counted (dataset : Dataset) {candidates : ItemList}
    (distinct : candidates.ids.Nodup) : ((counted dataset candidates).map Prod.fst).Nodup := by
  rw [((perm_counted distinct).map Prod.fst).nodup_iff, map_fst_withCount]
  exact nodup_inOrder dataset candidates

/-- Sorting by score leaves the order of popularity. -/
theorem mergeSort_counted (small : dataset.size < 2 ^ 53) {candidates : ItemList}
    (distinct : candidates.ids.Nodup) :
    (counted dataset candidates).mergeSort ItemList.precedes =
      (inOrder dataset candidates).map (withCount dataset) := by
  have strict : ((inOrder dataset candidates).map (withCount dataset)).Pairwise ItemList.Leads := by
    rw [List.pairwise_map]
    refine ((Dataset.pairwise_byPopularity dataset).filter candidates.contains).imp_of_mem
      fun _ isSecond before => leads_of_morePopular small (mem_inOrder.mp isSecond).2 before
  rw [ItemList.mergeSort_eq_of_perm (nodup_counted dataset distinct) (perm_counted distinct),
    ItemList.mergeSort_of_pairwise strict]

end

/-! ### Ranks and rankings -/

/-- A ranking of candidates that is the one which the ranks of some training data give. -/
structure FollowsRanks (dataset : Dataset) (candidates ranking : ItemList) : Prop where
  distinct : ranking.ids.Nodup
  /-- Candidates that do not occur in the data are left out, and no others. -/
  items : ∀ item, item ∈ ranking.ids ↔ item ∈ candidates.ids ∧ dataset.Offers item
  increasing : ranking.ids.Pairwise fun first second => ∃ rank other,
    dataset.popularityRanks.find? first = some rank ∧
      dataset.popularityRanks.find? second = some other ∧ rank < other
  /-- If every item of the data is a candidate, then the ranks are the same ones. -/
  ranks : (∀ item, dataset.Offers item → item ∈ candidates.ids) →
    ∀ item, ranking.rankOf? item = dataset.popularityRanks.find? item

theorem followsRanks_inOrder {dataset : Dataset} {candidates ranking : ItemList}
    (ordered : ranking.ordered = true) (ids : ranking.ids = inOrder dataset candidates) :
    FollowsRanks dataset candidates ranking where
  distinct := ids ▸ nodup_inOrder dataset candidates
  items := fun item => by rw [ids, mem_inOrder]
  increasing := by
    have ranked {item : ItemId} (member : item ∈ inOrder dataset candidates) :
        ∃ rank, dataset.popularityRanks.find? item = some rank :=
      Dataset.exists_rank_iff.mpr (mem_inOrder.mp member).2
    rw [ids]
    refine ((Dataset.pairwise_byPopularity dataset).filter candidates.contains).imp_of_mem
      fun isFirst isSecond before => ?_
    obtain ⟨rank, rankOfFirst⟩ := ranked isFirst
    obtain ⟨other, rankOfSecond⟩ := ranked isSecond
    exact ⟨rank, other, rankOfFirst, rankOfSecond,
      (Dataset.rank_lt_rank_iff rankOfFirst rankOfSecond).mpr before⟩
  ranks := by
    intro complete item
    have all : inOrder dataset candidates = dataset.byPopularity := by
      refine List.filter_eq_self.mpr fun item member => ?_
      exact List.contains_iff_mem.mpr (complete item (Dataset.mem_byPopularity.mp member))
    rw [ItemList.rankOf?, if_pos ordered, ids, all, Dataset.find?_popularityRanks]

/-- A scorer that was trained on fewer interactions than a double can count scores any candidates,
and ranks them as the data does. -/
theorem ranking_follows_ranks {dataset : Dataset} (small : dataset.size < 2 ^ 53)
    {candidates : ItemList} (distinct : candidates.ids.Nodup) (query : Query) :
    ∃ score scored ranking, scorer.train dataset = .immediate (.ok score) ∧
      score query candidates = .immediate (.ok scored) ∧ scored.rankTop none = .ok ranking ∧
        FollowsRanks dataset candidates ranking := by
  obtain ⟨scored, scores, given⟩ := ItemList.exists_scored (nodup_counted dataset distinct)
  refine ⟨scoring dataset, scored, _, rfl, by rw [scoring, scores]; rfl,
    ItemList.rankTop_eq given none, followsRanks_inOrder rfl ?_⟩
  show ((counted dataset candidates).mergeSort ItemList.precedes).map Prod.fst = _
  rw [mergeSort_counted small distinct, map_fst_withCount]

/-- Two items are as popular, one is more popular than both, and one candidate is not known. -/
theorem ranking_follows_ranks_level :
    ∃ score scored ranking,
      scorer.train ⟨[⟨"u", "b", none⟩, ⟨"u", "c", none⟩, ⟨"v", "c", none⟩, ⟨"w", "a", none⟩]⟩ =
          .immediate (.ok score) ∧
        score ⟨"u", none, none⟩ ⟨["x", "b", "a", "c"], none, none, false⟩ =
          .immediate (.ok scored) ∧
        scored.rankTop none = .ok ranking ∧
        FollowsRanks
          ⟨[⟨"u", "b", none⟩, ⟨"u", "c", none⟩, ⟨"v", "c", none⟩, ⟨"w", "a", none⟩]⟩
          ⟨["x", "b", "a", "c"], none, none, false⟩ ranking :=
  ranking_follows_ranks (by decide) (by decide) _

end Popularity

end Holdout
