/-
This file ties the metrics that only ask which items are relevant to one another. Over exact numbers
all of them are decided by two things: how many of the items that are seen are relevant, which is no
more than either list has items, and where the first of them stands. That place is also the least
length at which there is a hit, and at this length one item is relevant.
-/

import Holdout.Proofs.Metric.Exact
import Holdout.Proofs.Metric.Measurable

namespace Holdout

namespace Metric

open Arithmetic

/-! ### Counting relevant items -/

section

variable {list reference : ItemList}

theorem relevantCount_le_size : relevantCount list reference ≤ list.size := List.countP_le_length

/-- Of distinct items every one is another item of the reference. -/
theorem relevantCount_le_reference (distinct : list.ids.Nodup) :
    relevantCount list reference ≤ reference.size := by
  rw [relevantCount, List.countP_eq_length_filter]
  refine (List.subperm_of_subset (distinct.filter _) fun item member => ?_).length_le
  exact List.contains_iff_mem.mp (List.mem_filter.mp member).2

theorem any_iff_relevantCount_pos :
    list.ids.any reference.contains = true ↔ 0 < relevantCount list reference := by
  rw [relevantCount, List.countP_pos_iff, List.any_eq_true]

end

/-! ### The first relevant item -/

section

variable {items : List ItemId} {relevant : ItemId → Bool} {position count : Nat}

/-- The first relevant item is the only one up to its place. -/
theorem countP_take_of_findIdx? (first : items.findIdx? relevant = some position) :
    (items.take position).countP relevant = 0 ∧
      (items.take (position + 1)).countP relevant = 1 := by
  obtain ⟨inside, isRelevant, earlier⟩ := List.findIdx?_eq_some_iff_getElem.mp first
  have none : (items.take position).countP relevant = 0 := by
    refine List.countP_eq_zero.mpr fun item member => ?_
    obtain ⟨before, less, rfl⟩ := List.mem_take_iff_getElem.mp member
    exact earlier before (less.trans_le (Nat.min_le_left _ _))
  refine ⟨none, ?_⟩
  rw [List.take_succ_eq_append_getElem inside, List.countP_append, none,
    List.countP_singleton, if_pos isRelevant]

/-- Where a relevant item is seen, the first one is seen. -/
theorem exists_findIdx?_of_countP_take (found : 0 < (items.take count).countP relevant) :
    ∃ position < count, items.findIdx? relevant = some position := by
  obtain ⟨item, member, isRelevant⟩ := List.countP_pos_iff.mp found
  cases first : items.findIdx? relevant with
  | none =>
    have irrelevant := List.findIdx?_eq_none_iff.mp first item (List.mem_of_mem_take member)
    exact absurd isRelevant (Bool.eq_false_iff.mp irrelevant)
  | some position =>
    refine ⟨position, Nat.lt_of_not_le fun seenLater => ?_, rfl⟩
    have fewer : (items.take count).countP relevant ≤ (items.take position).countP relevant :=
      (List.take_sublist_take_left seenLater).countP_le
    rw [(countP_take_of_findIdx? first).1] at fewer
    omega

/-- What is cut off comes after what is seen. -/
theorem take_cut {length : Option Nat} (within : count ≤ (ItemList.cut length items).length) :
    (ItemList.cut length items).take count = items.take count := by
  cases length with
  | none => rfl
  | some most =>
    rw [ItemList.cut, List.length_take] at within
    rw [ItemList.cut, List.take_take, Nat.min_eq_left (within.trans (Nat.min_le_left _ _))]

end

/-! ### Values over exact numbers -/

section

variable {K : Type} [Field K] [LinearOrder K] {value : Float → K} {discount : Nat → K}
variable {list reference : ItemList}

theorem hit_exact :
    hit (exact value discount) list reference =
      if 0 < relevantCount list reference then 1 else 0 := by
  rw [hit]
  by_cases found : list.ids.any reference.contains = true
  · rw [if_pos found, if_pos (any_iff_relevantCount_pos.mp found)]
    exact Nat.cast_one
  · rw [if_neg found, if_neg (any_iff_relevantCount_pos.not.mp found)]
    exact Nat.cast_zero

/-- Nothing divided by nothing is zero, as the guard has it. -/
theorem precisionShare_exact :
    precisionShare (exact value discount) list reference =
      (relevantCount list reference : K) / list.size := by
  rw [precisionShare]
  split
  · rename_i empty
    rw [ItemList.size, List.isEmpty_iff.mp empty, List.length_nil, Nat.cast_zero, div_zero]
    exact Nat.cast_zero
  · rfl

theorem recallShare_exact :
    recallShare (exact value discount) list reference =
      (relevantCount list reference : K) / reference.size := by
  rw [recallShare]
  split
  · rename_i empty
    rw [ItemList.size, List.isEmpty_iff.mp empty, List.length_nil, Nat.cast_zero, div_zero]
    exact Nat.cast_zero
  · rfl

theorem reciprocalRank_exact :
    reciprocalRank (exact value discount) list reference =
      (list.ids.findIdx? reference.contains).elim 0 fun position =>
        1 / ((position + 1 : Nat) : K) := by
  rw [reciprocalRank]
  cases list.ids.findIdx? reference.contains with
  | none => exact Nat.cast_zero
  | some position => exact congrArg (· / ((position + 1 : Nat) : K)) Nat.cast_one

variable [IsStrictOrderedRing K] {part whole rank : Nat}

theorem share_bounded (atMost : part ≤ whole) : 0 ≤ (part : K) / whole ∧ (part : K) / whole ≤ 1 :=
  ⟨div_nonneg (Nat.cast_nonneg _) (Nat.cast_nonneg _),
    div_le_one_of_le₀ (Nat.cast_le.mpr atMost) (Nat.cast_nonneg _)⟩

theorem share_pos_iff (atMost : part ≤ whole) : 0 < (part : K) / whole ↔ 0 < part := by
  constructor
  · intro positive
    refine Nat.pos_of_ne_zero fun nothing => positive.ne' ?_
    rw [nothing, Nat.cast_zero, zero_div]
  · intro some
    exact div_pos (Nat.cast_pos.mpr some) (Nat.cast_pos.mpr (some.trans_le atMost))

omit [IsStrictOrderedRing K] in
theorem hit_eq_one_iff :
    hit (exact value discount) list reference = 1 ↔ 0 < relevantCount list reference := by
  rw [hit_exact]
  by_cases found : 0 < relevantCount list reference <;> simp [found]

theorem reciprocalRank_pos_iff :
    0 < reciprocalRank (exact value discount) list reference ↔
      0 < relevantCount list reference := by
  rw [reciprocalRank_exact]
  cases first : list.ids.findIdx? reference.contains with
  | none =>
    have nothing : relevantCount list reference = 0 := List.countP_eq_zero.mpr fun item member =>
      Bool.eq_false_iff.mp (List.findIdx?_eq_none_iff.mp first item member)
    simp [nothing]
  | some position =>
    have found : 0 < (list.ids.take (position + 1)).countP reference.contains :=
      (countP_take_of_findIdx? first).2.symm ▸ Nat.one_pos
    exact iff_of_true (one_div_pos.mpr (Nat.cast_pos.mpr (Nat.succ_pos position)))
      (found.trans_le (List.take_sublist _ _).countP_le)

/-- The rank of the first relevant item is read off the reciprocal rank. -/
theorem findIdx?_of_reciprocalRank (ranked : 1 ≤ rank)
    (reciprocal : reciprocalRank (exact value discount) list reference = 1 / (rank : K)) :
    list.ids.findIdx? reference.contains = some (rank - 1) := by
  rw [reciprocalRank_exact] at reciprocal
  cases first : list.ids.findIdx? reference.contains with
  | none =>
    rw [first] at reciprocal
    exact absurd reciprocal (one_div_pos.mpr (Nat.cast_pos.mpr ranked)).ne
  | some position =>
    rw [first, Option.elim_some, one_div, one_div, inv_inj, Nat.cast_inj] at reciprocal
    rw [← reciprocal, Nat.add_sub_cancel]

end

/-! ### What is measured of a ranking -/

/-- The values of the metrics that count relevant items. -/
structure Counting (Number : Type) where
  hit : Number
  precisionShare : Number
  recallShare : Number
  reciprocalRank : Number

section

variable {Number : Type} (arithmetic : Arithmetic Number) {length : Option Nat}
variable {recommended list : ItemList} (reference : ItemList)

/-- The values are those of a ranking at a length. -/
structure Counting.Measured (values : Counting Number) (length : Option Nat)
    (recommended : ItemList) : Prop where
  hit : (⟨.hit, length⟩ : RankingMetric).measure arithmetic recommended reference =
    .ok values.hit
  precisionShare : (⟨.precisionShare, length⟩ : RankingMetric).measure arithmetic recommended
    reference = .ok values.precisionShare
  recallShare : (⟨.recallShare, length⟩ : RankingMetric).measure arithmetic recommended
    reference = .ok values.recallShare
  reciprocalRank : (⟨.reciprocalRank, length⟩ : RankingMetric).measure arithmetic recommended
    reference = .ok values.reciprocalRank

/-- The values of the list that is seen. -/
def countingOf (list : ItemList) : Counting Number where
  hit := hit arithmetic list reference
  precisionShare := precisionShare arithmetic list reference
  recallShare := recallShare arithmetic list reference
  reciprocalRank := reciprocalRank arithmetic list reference

theorem measured_countingOf (ordered : recommended.ordered = true)
    (shows : ∀ label, shown label recommended length = .ok list) :
    (countingOf arithmetic reference list).Measured arithmetic reference length recommended where
  hit := RankingMetric.measure_of_shown arithmetic nofun (shows _)
  precisionShare := RankingMetric.measure_of_shown arithmetic nofun (shows _)
  recallShare := RankingMetric.measure_of_shown arithmetic nofun (shows _)
  reciprocalRank := RankingMetric.measure_of_shown arithmetic (fun _ => ordered) (shows _)

/-- As far as a list is seen, a lesser length sees the beginning of it. -/
theorem measured_take {count : Nat} (ordered : recommended.ordered = true)
    (ids : list.ids = ItemList.cut length recommended.ids) (positive : 1 ≤ count)
    (within : count ≤ list.size) :
    ∃ seen : ItemList, seen.ids = list.ids.take count ∧
      (countingOf arithmetic reference seen).Measured arithmetic reference (some count)
        recommended := by
  obtain ⟨seen, shows, first⟩ := exists_shown (some_ne_zero positive) (Or.inr ordered)
  refine ⟨seen, ?_, measured_countingOf arithmetic reference ordered shows⟩
  rw [first, ids, take_cut (ids ▸ within)]
  rfl

end

section

variable {K : Type} [Field K] [LinearOrder K]

/-- The first relevant item of a ranking stands at a rank: no lesser length has a hit, and at this
one a single item is relevant. -/
structure FirstRelevantAt (arithmetic : Arithmetic K) (recommended reference : ItemList)
    (rank : Nat) : Prop where
  hit : (⟨.hit, some rank⟩ : RankingMetric).measure arithmetic recommended reference = .ok 1
  precisionShare : (⟨.precisionShare, some rank⟩ : RankingMetric).measure arithmetic recommended
    reference = .ok (1 / (rank : K))
  missed : ∀ shorter, 1 ≤ shorter → shorter < rank →
    (⟨.hit, some shorter⟩ : RankingMetric).measure arithmetic recommended reference = .ok 0

/-- What the values of a ranking say about the list that is seen, and about one another. -/
structure Counting.Agree (arithmetic : Arithmetic K) (recommended list reference : ItemList)
    (values : Counting K) : Prop where
  atMost : relevantCount list reference ≤ min list.size reference.size
  precisionOfNothing : list.ids = [] → values.precisionShare = 0
  precisionOfSome : list.ids ≠ [] →
    values.precisionShare = (relevantCount list reference : K) / list.size
  precisionBounded : 0 ≤ values.precisionShare ∧ values.precisionShare ≤ 1
  recallOfNothing : reference.ids = [] → values.recallShare = 0
  recallOfSome : reference.ids ≠ [] →
    values.recallShare = (relevantCount list reference : K) / reference.size
  recallBounded : 0 ≤ values.recallShare ∧ values.recallShare ≤ 1
  hitOrMissed : values.hit = 1 ∨ values.hit = 0
  hit : values.hit = 1 ↔ 0 < relevantCount list reference
  hitOfPrecision : values.hit = 1 ↔ 0 < values.precisionShare
  hitOfRecall : values.hit = 1 ↔ 0 < values.recallShare
  hitOfRank : values.hit = 1 ↔ 0 < values.reciprocalRank
  /-- A reciprocal rank is the reciprocal of a rank, unless it is zero. -/
  rank : values.reciprocalRank = 0 ∨
    ∃ rank : Nat, 1 ≤ rank ∧ values.reciprocalRank = 1 / (rank : K)
  first : ∀ rank : Nat, 1 ≤ rank → values.reciprocalRank = 1 / (rank : K) →
    rank ≤ list.size ∧ FirstRelevantAt arithmetic recommended reference rank

variable {value : Float → K} {discount : Nat → K}
variable {recommended list reference : ItemList} {length : Option Nat} {rank : Nat}

/-- Where the first relevant item is seen, it is the last one that a length up to it sees. -/
theorem firstRelevantAt_of_findIdx? {position : Nat} (ordered : recommended.ordered = true)
    (ids : list.ids = ItemList.cut length recommended.ids)
    (first : list.ids.findIdx? reference.contains = some position) :
    FirstRelevantAt (exact value discount) recommended reference (position + 1) := by
  obtain ⟨before, here⟩ := countP_take_of_findIdx? first
  have inside : position + 1 ≤ list.size := (List.findIdx?_eq_some_iff_getElem.mp first).1
  obtain ⟨seen, seenIds, measured⟩ := measured_take (exact value discount) reference ordered ids
    (Nat.le_add_left 1 position) inside
  have one : relevantCount seen reference = 1 := by rw [relevantCount, seenIds, here]
  have size : seen.size = position + 1 := by
    rw [ItemList.size, seenIds, List.length_take_of_le inside]
  refine ⟨?_, ?_, fun shorter positive less => ?_⟩
  · rw [measured.hit, countingOf, hit_exact, one, if_pos Nat.one_pos]
  · rw [measured.precisionShare, countingOf, precisionShare_exact, one, size, Nat.cast_one]
  · obtain ⟨few, fewIds, measuredFew⟩ := measured_take (exact value discount) reference ordered ids
      positive (less.le.trans inside)
    have none : relevantCount few reference = 0 := by
      refine Nat.eq_zero_of_le_zero (before ▸ ?_)
      rw [relevantCount, fewIds]
      exact (List.take_sublist_take_left (Nat.le_of_lt_succ less)).countP_le
    rw [measuredFew.hit, countingOf, hit_exact, none, if_neg (Nat.lt_irrefl 0)]

variable [IsStrictOrderedRing K]

theorem agree_countingOf (distinct : list.ids.Nodup) (ordered : recommended.ordered = true)
    (ids : list.ids = ItemList.cut length recommended.ids) :
    (countingOf (exact value discount) reference list).Agree (exact value discount) recommended
      list reference := by
  have ofList : relevantCount list reference ≤ list.size := relevantCount_le_size
  have ofReference : relevantCount list reference ≤ reference.size :=
    relevantCount_le_reference distinct
  have precise : precisionShare (exact value discount) list reference =
      (relevantCount list reference : K) / list.size := precisionShare_exact
  have recalled : recallShare (exact value discount) list reference =
      (relevantCount list reference : K) / reference.size := recallShare_exact
  have hits : hit (exact value discount) list reference = 1 ↔ 0 < relevantCount list reference :=
    hit_eq_one_iff
  constructor
  case atMost => exact le_min ofList ofReference
  case precisionOfNothing =>
    intro empty
    rw [countingOf, precise, ItemList.size, empty, List.length_nil, Nat.cast_zero, div_zero]
  case precisionOfSome => exact fun _ => precise
  case precisionBounded =>
    rw [countingOf, precise]
    exact share_bounded ofList
  case recallOfNothing =>
    intro empty
    rw [countingOf, recalled, ItemList.size, empty, List.length_nil, Nat.cast_zero, div_zero]
  case recallOfSome => exact fun _ => recalled
  case recallBounded =>
    rw [countingOf, recalled]
    exact share_bounded ofReference
  case hitOrMissed =>
    rw [countingOf, hit_exact]
    split
    · exact Or.inl rfl
    · exact Or.inr rfl
  case hit => exact hits
  case hitOfPrecision =>
    rw [countingOf, precise, share_pos_iff ofList]
    exact hits
  case hitOfRecall =>
    rw [countingOf, recalled, share_pos_iff ofReference]
    exact hits
  case hitOfRank => exact hits.trans reciprocalRank_pos_iff.symm
  case rank =>
    rw [countingOf, reciprocalRank_exact]
    cases list.ids.findIdx? reference.contains with
    | none => exact Or.inl rfl
    | some position => exact Or.inr ⟨position + 1, Nat.le_add_left 1 position, rfl⟩
  case first =>
    intro rank ranked reciprocal
    have first := findIdx?_of_reciprocalRank ranked reciprocal
    have inside := (List.findIdx?_eq_some_iff_getElem.mp first).1
    have found : FirstRelevantAt (exact value discount) recommended reference (rank - 1 + 1) :=
      firstRelevantAt_of_findIdx? ordered ids first
    rw [Nat.sub_add_cancel ranked] at found
    exact ⟨Nat.le_of_pred_lt inside, found⟩

/-- The metrics that count relevant items agree about every ranking. -/
theorem counting_agrees (valid : recommended.Valid) (ordered : recommended.ordered = true)
    (lengthy : length ≠ some 0) :
    ∃ (list : ItemList) (values : Counting K),
      (∀ label, shown label recommended length = .ok list) ∧
        values.Measured (exact value discount) reference length recommended ∧
        values.Agree (exact value discount) recommended list reference := by
  obtain ⟨list, shows, ids⟩ := exists_shown lengthy (Or.inr ordered)
  exact ⟨list, countingOf (exact value discount) reference list, shows,
    measured_countingOf _ reference ordered shows,
    agree_countingOf (ids ▸ valid.distinct.sublist (ItemList.cut_sublist _ _)) ordered ids⟩

/-- Both relevant items are seen, the first of them at the second rank. -/
theorem counting_agrees_second :
    ∃ (list : ItemList) (values : Counting ℚ),
      (∀ label, shown label ⟨["x", "a", "b", "y"], none, some [1, 2, 3, 4], true⟩ (some 3) =
        .ok list) ∧
      values.Measured (exact (fun _ => 0) fun _ => 1) ⟨["b", "c", "a"], none, none, false⟩ (some 3)
        ⟨["x", "a", "b", "y"], none, some [1, 2, 3, 4], true⟩ ∧
      values.Agree (exact (fun _ => 0) fun _ => 1)
        ⟨["x", "a", "b", "y"], none, some [1, 2, 3, 4], true⟩ list
        ⟨["b", "c", "a"], none, none, false⟩ :=
  counting_agrees (.of_ranksTo (by decide) (by simp) (Or.inr rfl)) rfl (by decide)

end

end Metric

end Holdout
