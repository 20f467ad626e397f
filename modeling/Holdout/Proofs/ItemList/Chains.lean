/-
This file follows views that are made of one another: the first items of a list, its ranking by
score, its items without those of another list. Every view moves an item together with its score, so
whatever a chain of them leaves over has the score that it had in the beginning. A chain that never
ranks leaves the items in their order as well, and of two cuts only the deeper one counts.
-/

import Holdout.Proofs.ItemList.History
import Holdout.Proofs.ItemList.Views

namespace Holdout

namespace ItemList

/-! ### Chains of views -/

/-- The call attaches nothing to the list. -/
def Change.IsView : Change → Prop
  | .withScores _ | .withRanks _ => False
  | .top _ | .rankTop _ | .without _ => True

/-- The call takes items away, and that is all it does. -/
def Change.OnlyRemoves : Change → Prop
  | .withScores _ | .withRanks _ | .rankTop _ => False
  | .top _ | .without _ => True

/-- What these calls make of a list, each of what the one before it gave, unless one is refused. -/
def chain (list : ItemList) (changes : List Change) : Except ItemListError ItemList :=
  changes.foldlM Change.apply list

/-! ### Items and their scores -/

/-- Some of the items of a list, with the scores that they have there. -/
structure Keeps (list view : ItemList) : Prop where
  distinct : view.ids.Nodup
  subset : view.ids ⊆ list.ids
  scored : view.scores = none ↔ list.scores = none
  scoreOf : ∀ item ∈ view.ids, view.scoreOf? item = list.scoreOf? item
  /-- No score is lost. -/
  known : list.scores ≠ none → ∀ item ∈ view.ids, view.scoreOf? item ≠ none

section

variable {list view other : ItemList}

theorem pairs?_eq_none_iff : list.pairs? = none ↔ list.scores = none := Option.map_eq_none_iff

theorem scoreOf?_of_unscored (unscored : list.scores = none) (item : ItemId) :
    list.scoreOf? item = none := by
  rw [scoreOf?, pairs?_eq_none_iff.mpr unscored, Option.bind_none]

/-- An item has the score with which it is paired. -/
theorem Valid.scoreOf?_eq_some_iff (valid : list.Valid) {pairs : List (ItemId × Float)}
    (given : list.pairs? = some pairs) {item : ItemId} {score : Float} :
    list.scoreOf? item = some score ↔ (item, score) ∈ pairs := by
  rw [scoreOf?, given, Option.bind_some]
  exact lookup_eq_some_iff_mem ((valid.pairs_eq given).1 ▸ valid.distinct)

/-- A list that holds nothing but pairs of another one keeps its scores. -/
theorem Keeps.of_pairs (valid : list.Valid) (validView : view.Valid)
    {pairs left : List (ItemId × Float)} (given : list.pairs? = some pairs)
    (givenView : view.pairs? = some left) (subset : left ⊆ pairs) : Keeps list view := by
  obtain ⟨ids, scores⟩ := valid.pairs_eq given
  obtain ⟨idsView, scoresView⟩ := validView.pairs_eq givenView
  have found {item : ItemId} (member : item ∈ view.ids) :
      ∃ score, view.scoreOf? item = some score ∧ list.scoreOf? item = some score := by
    rw [← idsView] at member
    obtain ⟨⟨_, score⟩, inView, rfl⟩ := List.mem_map.mp member
    exact ⟨score, (validView.scoreOf?_eq_some_iff givenView).mpr inView,
      (valid.scoreOf?_eq_some_iff given).mpr (subset inView)⟩
  refine ⟨validView.distinct, ?_, by simp [scores, scoresView], fun item member => ?_,
    fun _ item member => ?_⟩
  · rw [← ids, ← idsView]
    exact List.map_subset Prod.fst subset
  · obtain ⟨score, inView, inList⟩ := found member
    rw [inView, inList]
  · obtain ⟨score, inView, -⟩ := found member
    rw [inView]
    exact Option.some_ne_none score

theorem Keeps.of_unscored (validView : view.Valid) (unscored : list.scores = none)
    (unscoredView : view.scores = none) (subset : view.ids ⊆ list.ids) : Keeps list view where
  distinct := validView.distinct
  subset := subset
  scored := by rw [unscored, unscoredView]
  scoreOf item _ := by rw [scoreOf?_of_unscored unscored, scoreOf?_of_unscored unscoredView]
  known scored := absurd unscored scored

theorem Keeps.refl (valid : list.Valid) : Keeps list list := by
  cases given : list.pairs? with
  | none =>
    have unscored := pairs?_eq_none_iff.mp given
    exact .of_unscored valid unscored unscored (List.Subset.refl _)
  | some pairs => exact .of_pairs valid valid given given (List.Subset.refl _)

theorem Keeps.trans (first : Keeps list view) (second : Keeps view other) : Keeps list other where
  distinct := second.distinct
  subset := List.Subset.trans second.subset first.subset
  scored := second.scored.trans first.scored
  scoreOf item member :=
    (second.scoreOf item member).trans (first.scoreOf item (second.subset member))
  known scored := second.known (mt first.scored.mp scored)

/-! ### One view -/

theorem keeps_top {count : Nat} (valid : list.Valid) (cuts : list.top count = .ok view) :
    Keeps list view := by
  have validView := valid_top valid cuts
  obtain ⟨-, rfl⟩ | ⟨-, -, rfl⟩ := top_cases cuts
  · exact .refl valid
  cases given : list.pairs? with
  | none =>
    have unscored := pairs?_eq_none_iff.mp given
    exact .of_unscored validView unscored (Option.map_eq_none_iff.mpr unscored)
      (List.take_subset _ _)
  | some pairs =>
    obtain ⟨scores, attached, rfl⟩ := Option.map_eq_some_iff.mp given
    refine .of_pairs valid validView given ?_ (List.take_subset count _)
    simp only [pairs?, attached, Option.map_some, List.zip_eq_zipWith, List.take_zipWith]

theorem keeps_without (valid : list.Valid) (excluded : ItemList) :
    Keeps list (list.without excluded) := by
  have validView := valid_without excluded valid
  cases given : list.pairs? with
  | none =>
    have unscored := pairs?_eq_none_iff.mp given
    refine .of_unscored validView unscored ?_ (List.filter_subset_self _)
    rw [without, unscored, Option.map_none]
  | some pairs =>
    exact .of_pairs valid validView given (valid.pairs?_without given excluded)
      (List.filter_subset_self _)

theorem keeps_rankTop {limit : Option Nat} (valid : list.Valid)
    (ranks : list.rankTop limit = .ok view) : Keeps list view := by
  have validView := valid_rankTop valid ranks
  obtain ⟨pairs, given, rfl⟩ := rankTop_eq_ok_iff.mp ranks
  refine .of_pairs valid validView given (pairs?_ofRanking _) fun pair member => ?_
  exact (pairs.mergeSort_perm precedes).mem_iff.mp ((cut_sublist limit _).subset member)

theorem keeps_apply {change : Change} (valid : list.Valid) (isView : change.IsView)
    (applies : change.apply list = .ok view) : Keeps list view := by
  cases change with
  | withScores _ => exact isView.elim
  | withRanks _ => exact isView.elim
  | top _ => exact keeps_top valid applies
  | rankTop _ => exact keeps_rankTop valid applies
  | without excluded =>
    cases applies
    exact keeps_without valid excluded

theorem sublist_apply {change : Change} (onlyRemoves : change.OnlyRemoves)
    (applies : change.apply list = .ok view) : view.ids.Sublist list.ids := by
  cases change with
  | withScores _ => exact onlyRemoves.elim
  | withRanks _ => exact onlyRemoves.elim
  | rankTop _ => exact onlyRemoves.elim
  | top count =>
    rw [ids_of_top applies]
    exact List.take_sublist _ _
  | without excluded =>
    cases applies
    exact List.filter_sublist

/-! ### Whole chains -/

theorem chain_cons {change : Change} {rest : List Change}
    (succeeds : list.chain (change :: rest) = .ok view) :
    ∃ next, change.apply list = .ok next ∧ next.chain rest = .ok view := by
  rw [chain, List.foldlM_cons] at succeeds
  exact exists_of_bind succeeds

theorem keeps_chain {changes : List Change} (valid : list.Valid)
    (views : ∀ change ∈ changes, change.IsView) (succeeds : list.chain changes = .ok view) :
    Keeps list view := by
  induction changes generalizing list with
  | nil =>
    cases succeeds
    exact .refl valid
  | cons change rest inductionHypothesis =>
    rw [List.forall_mem_cons] at views
    obtain ⟨next, applies, succeeds⟩ := chain_cons succeeds
    exact (keeps_apply valid views.1 applies).trans
      (inductionHypothesis (valid_apply valid applies) views.2 succeeds)

theorem sublist_chain {changes : List Change} (remove : ∀ change ∈ changes, change.OnlyRemoves)
    (succeeds : list.chain changes = .ok view) : view.ids.Sublist list.ids := by
  induction changes generalizing list with
  | nil =>
    cases succeeds
    exact List.Sublist.refl _
  | cons change rest inductionHypothesis =>
    rw [List.forall_mem_cons] at remove
    obtain ⟨next, applies, succeeds⟩ := chain_cons succeeds
    exact (inductionHypothesis remove.2 succeeds).trans (sublist_apply remove.1 applies)

end

/-! ### Cuts -/

/-- A ranking that is cut twice is cut at the lesser length. -/
theorem top_top {list : ItemList} (isOrdered : list.ordered = true) (first second : Nat) :
    (list.top first >>= (·.top second)) = list.top (min first second) := by
  -- Each cut either takes items away or leaves the list as it is.
  rcases Nat.lt_or_ge first list.size with cutsFirst | keepsFirst
  · rw [top_of_long isOrdered cutsFirst]
    have size : ItemList.size ⟨list.ids.take first, list.scores.map (·.take first),
        list.ranks.map (·.take first), true⟩ = first := List.length_take_of_le cutsFirst.le
    rcases Nat.lt_or_ge second first with cutsSecond | keepsSecond
    · rw [Nat.min_eq_right cutsSecond.le, top_of_long isOrdered (cutsSecond.trans cutsFirst)]
      refine (top_of_long rfl (cutsSecond.trans_eq size.symm)).trans ?_
      simp only [List.take_take, Nat.min_eq_left cutsSecond.le, Option.map_map, Function.comp_def]
    · rw [Nat.min_eq_left keepsSecond, top_of_long isOrdered cutsFirst]
      exact top_of_short (size.trans_le keepsSecond)
  · rw [top_of_short keepsFirst]
    show list.top second = _
    rcases Nat.lt_or_ge second list.size with cutsSecond | keepsSecond
    · rw [Nat.min_eq_right (cutsSecond.le.trans keepsFirst)]
    · rw [top_of_short keepsSecond, top_of_short (Nat.le_min.mpr ⟨keepsFirst, keepsSecond⟩)]

/-! ### What a chain leaves -/

/-- Whatever views are made of a list, one of the other, the items that are left have the scores
that they had, and stand as they stood if no view ranks them. A ranking that is cut twice is the
ranking that is cut once. -/
theorem scores_stay_attached {list : ItemList} (valid : list.Valid) :
    (∀ changes view, (∀ change ∈ changes, change.IsView) → list.chain changes = .ok view →
      Keeps list view ∧
        ((∀ change ∈ changes, change.OnlyRemoves) → view.ids.Sublist list.ids)) ∧
    (list.ordered = true → ∀ first second, ∃ view,
      list.chain [.top first, .top second] = .ok view ∧
        list.chain [.top (min first second)] = .ok view) := by
  refine ⟨fun changes view views succeeds => ⟨keeps_chain valid views succeeds,
    fun remove => sublist_chain remove succeeds⟩, fun isOrdered first second => ?_⟩
  obtain ⟨view, cuts⟩ := exists_top_of_ordered isOrdered (min first second)
  refine ⟨view, ?_, ?_⟩
  · rw [← cuts, ← top_top isOrdered]
    simp only [chain, List.foldlM_cons, List.foldlM_nil, Change.apply, bind_pure]
  · rw [← cuts]
    simp only [chain, List.foldlM_cons, List.foldlM_nil, Change.apply, bind_pure]

/-- One of the scores is no number, and the best item is excluded. -/
theorem scores_stay_attached_ranking :
    (∃ view, (⟨["a", "b", "c"], some [0.0 / 0.0, 3.0, 2.0], some [1, 2, 3], true⟩ :
        ItemList).chain [.top 2, .rankTop none, .without ⟨["b"], none, none, false⟩] = .ok view ∧
      Keeps ⟨["a", "b", "c"], some [0.0 / 0.0, 3.0, 2.0], some [1, 2, 3], true⟩ view) ∧
    (∃ view, (⟨["a", "b", "c"], some [0.0 / 0.0, 3.0, 2.0], some [1, 2, 3], true⟩ :
        ItemList).chain [.without ⟨["b"], none, none, false⟩, .top 1] = .ok view ∧
      view.ids.Sublist ["a", "b", "c"]) ∧
    ∃ view, (⟨["a", "b", "c"], some [0.0 / 0.0, 3.0, 2.0], some [1, 2, 3], true⟩ :
        ItemList).chain [.top 2, .top 1] = .ok view ∧
      (⟨["a", "b", "c"], some [0.0 / 0.0, 3.0, 2.0], some [1, 2, 3], true⟩ :
        ItemList).chain [.top 1] = .ok view := by
  have attached := @scores_stay_attached
    ⟨["a", "b", "c"], some [0.0 / 0.0, 3.0, 2.0], some [1, 2, 3], true⟩
    (.of_ranksTo (by decide) (by simp) (Or.inr rfl))
  exact ⟨⟨_, rfl, (attached.1 [.top 2, .rankTop none, .without ⟨["b"], none, none, false⟩] _
      (by simp [Change.IsView]) rfl).1⟩,
    ⟨_, rfl, (attached.1 [.without ⟨["b"], none, none, false⟩, .top 1] _
      (by simp [Change.IsView]) rfl).2 (by simp [Change.OnlyRemoves])⟩,
    attached.2 rfl 2 1⟩

end ItemList

end Holdout
