/-
This file shows that a ranking by score holds the best items, and no others. The order in which
scored items stand is linear: it goes by the place of the score, and then by name. Distinct names
never tie, so the ranking of a list is strict, and whatever is cut off stands after all that is
kept.
-/

import Holdout.Proofs.ItemList.Valid
import Holdout.Proofs.Names
import Holdout.Proofs.Scores
import Holdout.Proofs.Sorting

namespace Holdout

namespace ItemList

/-! ### The order of a ranking -/

/-- The item that stands first has the greater score, no number counting as the least, or a level
score and the name with the lesser bytes. -/
def Leads (first second : ItemId × Float) : Prop :=
  Score.Before first.2 second.2 ∨
    Score.Level first.2 second.2 ∧ Names.bytes first.1 < Names.bytes second.1

def standing (pair : ItemId × Float) : WithTop Score.Heightᵒᵈ ×ₗ ItemId :=
  toLex (Score.place pair.2, pair.1)

theorem leads_iff_standing {first second : ItemId × Float} :
    Leads first second ↔ standing first < standing second := by
  rw [Leads, Score.before_iff_place, Score.level_iff_place, Names.bytes_lt_bytes, standing,
    standing, Prod.Lex.toLex_lt_toLex]

theorem precedes_iff_standing (first second : ItemId × Float) :
    precedes first second = true ↔ standing first ≤ standing second := by
  rw [precedes, Score.compareScores_eq_compare, standing, standing, Prod.Lex.toLex_le_toLex]
  rcases lt_trichotomy (Score.place first.2) (Score.place second.2) with less | same | more
  · simp [compare_lt_iff_lt.mpr less, less]
  · simp [same]
  · simp [compare_gt_iff_gt.mpr more, not_lt_of_gt more, ne_of_gt more]

/-! ### Sorted items -/

/-- Distinct names never tie. -/
theorem nodup_standings {pairs : List (ItemId × Float)} (distinct : (pairs.map Prod.fst).Nodup) :
    (pairs.map standing).Nodup := by
  refine List.Nodup.of_map (fun place => (ofLex place).2) ?_
  rw [List.map_map]
  exact distinct

theorem pairwise_leads_mergeSort {pairs : List (ItemId × Float)}
    (distinct : (pairs.map Prod.fst).Nodup) : (pairs.mergeSort precedes).Pairwise Leads :=
  (Sorting.strict_mergeSort precedes_iff_standing (nodup_standings distinct)).imp
    leads_iff_standing.mpr

/-- What a limit leaves over. -/
def leftOver {Element : Type} (limit : Option Nat) (elements : List Element) : List Element :=
  match limit with
  | some count => elements.drop count
  | none => []

theorem cut_append_leftOver {Element : Type} (limit : Option Nat) (elements : List Element) :
    cut limit elements ++ leftOver limit elements = elements := by
  cases limit with
  | none => exact List.append_nil _
  | some count => exact List.take_append_drop _ _

/-! ### The best items -/

/-- A ranking of scored items that holds the ones that are kept, which are the best. -/
structure IsTop (limit : Option Nat) (pairs kept dropped : List (ItemId × Float))
    (ranking : ItemList) : Prop where
  ordered : ranking.ordered = true
  ids : ranking.ids = kept.map Prod.fst
  scores : ranking.scores = some (kept.map Prod.snd)
  ranks : ranking.ranks = some (ranksTo ranking.size)
  /-- No scored item is lost, and none is there twice. -/
  all : (kept ++ dropped).Perm pairs
  count : kept.length = limit.elim pairs.length (min · pairs.length)
  strict : kept.Pairwise Leads
  best : ∀ first ∈ kept, ∀ second ∈ dropped, Leads first second

/-- A ranking fails exactly if there are no scores, and otherwise holds the best items. -/
theorem rankTop_best {list : ItemList} (valid : list.Valid) (limit : Option Nat) :
    (list.rankTop limit = .error (.invalid .noScores) ↔ list.scores = none) ∧
      ∀ scores, list.scores = some scores → ∃ ranking kept dropped,
        list.rankTop limit = .ok ranking ∧ (list.ids.zip scores).length = list.size ∧
          IsTop limit (list.ids.zip scores) kept dropped ranking := by
  constructor
  · rw [rankTop, pairs?]
    cases list.scores <;> simp
  intro scores given
  have pairs : list.pairs? = some (list.ids.zip scores) := by rw [pairs?, given, Option.map_some]
  have size : (list.ids.zip scores).length = list.size := by
    rw [List.length_zip, valid.scored scores given, Nat.min_self, ItemList.size]
  generalize list.ids.zip scores = scoredItems at pairs size
  have parts := cut_append_leftOver limit (scoredItems.mergeSort precedes)
  have perm := scoredItems.mergeSort_perm precedes
  have strict : (scoredItems.mergeSort precedes).Pairwise Leads :=
    pairwise_leads_mergeSort ((valid.pairs_eq pairs).1 ▸ valid.distinct)
  rw [← parts, List.pairwise_append] at strict
  refine ⟨_, _, _, rankTop_eq_ok_iff.mpr ⟨_, pairs, rfl⟩, size, rfl, rfl, rfl, ?_,
    parts.symm ▸ perm, ?_, strict.1, strict.2.2⟩
  · rw [ItemList.size, ofRanking, List.length_map]
  · rw [length_cut, perm.length_eq]

theorem rankTop_best_zeros : ∃ ranking kept dropped,
    (⟨["b", "a"], some [0.0, -0.0], none, false⟩ : ItemList).rankTop (some 1) = .ok ranking ∧
      (["b", "a"].zip [0.0, -0.0]).length = 2 ∧
        IsTop (some 1) (["b", "a"].zip [0.0, -0.0]) kept dropped ranking :=
  (rankTop_best (@valid_scored [("b", 0.0), ("a", -0.0)] _ rfl) (some 1)).2 _ rfl

example : Leads ("a", -0.0) ("b", 0.0) := Or.inr ⟨Or.inl rfl, by decide⟩

end ItemList

end Holdout
