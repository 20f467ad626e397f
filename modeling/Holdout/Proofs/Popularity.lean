/-
This file shows that popularity numbers the items of training data through. Counting one interaction
after the other gives every item the number of its interactions, whatever the order. Items stand in
a linear order, by their counts and then by name, so there is one way to rank them, and a rank is
the number of items that are at least as popular.
-/

import Holdout.Proofs.HeldOut
import Mathlib.Algebra.BigOperators.Group.List.Lemmas
import Mathlib.Algebra.GroupWithZero.Nat
import Mathlib.Data.Prod.Lex

namespace Holdout

namespace Dataset

/-! ### Counting -/

/-- The counts after one more interaction with an item. -/
def meet (counts : Table Nat) (interaction : Interaction) : Table Nat :=
  counts.put interaction.item ((counts.find? interaction.item).getD 0 + 1)

/-- The counts after some interactions, which are counted one after the other. -/
def tally (interactions : List Interaction) : Table Nat := interactions.foldl meet Table.empty

/-- Every item that was met has the number of its interactions, and no other item has a count. -/
def Counts (counts : Table Nat) (past : List Interaction) : Prop :=
  ∀ item count, counts.find? item = some count ↔
    count ≠ 0 ∧ count = (⟨past⟩ : Dataset).countOf item

theorem countOf_ne_zero_iff {dataset : Dataset} {item : ItemId} :
    dataset.countOf item ≠ 0 ↔ dataset.Offers item := by
  rw [countOf, ← Nat.pos_iff_ne_zero, List.countP_pos_iff, Offers]
  simp only [beq_iff_eq]

theorem countOf_le_size (dataset : Dataset) (item : ItemId) :
    dataset.countOf item ≤ dataset.size :=
  List.countP_le_length

theorem countOf_append (past : List Interaction) (interaction : Interaction) (item : ItemId) :
    (⟨past ++ [interaction]⟩ : Dataset).countOf item =
      (⟨past⟩ : Dataset).countOf item + if interaction.item = item then 1 else 0 := by
  simp [countOf, List.countP_append, List.countP_singleton]

theorem Counts.getD {counts : Table Nat} {past : List Interaction} (correct : Counts counts past)
    (item : ItemId) : (counts.find? item).getD 0 = (⟨past⟩ : Dataset).countOf item := by
  cases found : counts.find? item with
  | some count => exact ((correct item count).mp found).2
  | none =>
    by_contra met
    have known := (correct item _).mpr ⟨Ne.symm met, rfl⟩
    rw [found] at known
    cases known

theorem counts_meet {counts : Table Nat} {past : List Interaction} (correct : Counts counts past)
    (interaction : Interaction) : Counts (meet counts interaction) (past ++ [interaction]) := by
  intro item count
  rw [meet, Table.find?_put, countOf_append, correct.getD]
  by_cases here : item = interaction.item
  · rw [if_pos here, if_pos here.symm, Option.some_inj, here]
    omega
  · rw [if_neg here, if_neg (Ne.symm here), Nat.add_zero, correct item count]

theorem counts_foldl_meet {counts : Table Nat} {past : List Interaction}
    (correct : Counts counts past) (interactions : List Interaction) :
    Counts (interactions.foldl meet counts) (past ++ interactions) := by
  induction interactions generalizing counts past with
  | nil => rwa [List.append_nil]
  | cons interaction rest inductionHypothesis =>
    rw [List.append_cons]
    exact inductionHypothesis (counts_meet correct interaction)

theorem counts_tally (interactions : List Interaction) :
    Counts (tally interactions) interactions := by
  have nothing : Counts Table.empty [] := fun item count =>
    iff_of_false nofun fun impossible => impossible.1 impossible.2
  exact counts_foldl_meet nothing interactions

section

variable {dataset other : Dataset}

theorem mem_itemCounts {item : ItemId} {count : Nat} :
    (item, count) ∈ dataset.itemCounts ↔ dataset.Offers item ∧ count = dataset.countOf item := by
  simp only [itemCounts, List.mem_map, mem_items, Prod.mk.injEq]
  constructor
  · rintro ⟨_, offered, rfl, rfl⟩
    exact ⟨offered, rfl⟩
  · rintro ⟨offered, rfl⟩
    exact ⟨item, offered, rfl, rfl⟩

theorem map_fst_itemCounts (dataset : Dataset) :
    dataset.itemCounts.map Prod.fst = dataset.items := by
  rw [itemCounts, List.map_map]
  exact List.map_id _

theorem nodup_items (dataset : Dataset) : dataset.items.Nodup :=
  (pairwise_items dataset).imp ne_of_lt

/-- Counting one after the other gives the counts, in whatever order the items come. -/
theorem perm_entries_tally (dataset : Dataset) :
    (tally dataset.interactions).entries.Perm dataset.itemCounts := by
  have distinct : (dataset.itemCounts.map Prod.fst).Nodup :=
    map_fst_itemCounts dataset ▸ nodup_items dataset
  rw [List.perm_ext_iff_of_nodup (tally dataset.interactions).distinct.of_map distinct.of_map]
  rintro ⟨item, count⟩
  rw [← Table.find?_eq_some_iff, counts_tally, mem_itemCounts, ← countOf_ne_zero_iff]
  constructor
  · rintro ⟨some, rfl⟩
    exact ⟨some, rfl⟩
  · rintro ⟨some, rfl⟩
    exact ⟨some, rfl⟩

/-- All interactions are counted, each of them once. -/
theorem sum_itemCounts (dataset : Dataset) :
    (dataset.itemCounts.map Prod.snd).sum = dataset.size := by
  have perm : dataset.items.Perm (dataset.interactions.map Interaction.item).dedup := by
    rw [List.perm_ext_iff_of_nodup (nodup_items dataset) (List.nodup_dedup _)]
    intro item
    rw [mem_items, List.mem_dedup, List.mem_map, Offers]
  have counted : dataset.itemCounts.map Prod.snd = dataset.items.map fun item =>
      (dataset.interactions.map Interaction.item).count item := by
    rw [itemCounts, List.map_map]
    refine List.map_congr_left fun item _ => ?_
    rw [List.count, List.countP_map]
    rfl
  rw [counted, (perm.map _).sum_eq, List.sum_map_count_dedup_eq_length, List.length_map, size]

/-! ### Interactions in another order -/

theorem countOf_eq_of_perm (perm : dataset.interactions.Perm other.interactions) (item : ItemId) :
    dataset.countOf item = other.countOf item :=
  perm.countP_eq _

theorem items_eq_of_perm (perm : dataset.interactions.Perm other.interactions) :
    dataset.items = other.items := by
  have same : dataset.items.Perm other.items := by
    rw [List.perm_ext_iff_of_nodup (nodup_items dataset) (nodup_items other)]
    intro item
    simp only [mem_items, Offers, perm.mem_iff]
  exact same.eq_of_pairwise (fun _ _ _ _ before after => absurd before (lt_asymm after))
    (pairwise_items dataset) (pairwise_items other)

theorem itemCounts_eq_of_perm (perm : dataset.interactions.Perm other.interactions) :
    dataset.itemCounts = other.itemCounts := by
  rw [itemCounts, itemCounts, items_eq_of_perm perm]
  exact List.map_congr_left fun item _ => by rw [countOf_eq_of_perm perm]

end

/-! ### The order of popularity -/

/-- An item stands before another if it has more interactions, or as many and the name with the
lesser bytes. -/
def MorePopular (first second : ItemId × Nat) : Prop :=
  second.2 < first.2 ∨ first.2 = second.2 ∧ Names.bytes first.1 < Names.bytes second.1

def placeOf (pair : ItemId × Nat) : Natᵒᵈ ×ₗ ItemId := toLex (OrderDual.toDual pair.2, pair.1)

section

variable {first second : ItemId × Nat}

theorem morePopular_iff_placeOf : MorePopular first second ↔ placeOf first < placeOf second := by
  rw [MorePopular, Names.bytes_lt_bytes, placeOf, placeOf, Prod.Lex.toLex_lt_toLex]
  exact Iff.rfl

theorem popularBefore_iff_placeOf (first second : ItemId × Nat) :
    popularBefore first second = true ↔ placeOf first ≤ placeOf second := by
  rw [placeOf, placeOf, Prod.Lex.toLex_le_toLex]
  simp only [popularBefore, nameAtMost, Bool.or_eq_true, Bool.and_eq_true, decide_eq_true_eq,
    beq_iff_eq, OrderDual.toDual_lt_toDual, OrderDual.toDual_inj, @eq_comm _ second.2]

theorem MorePopular.asymm (before : MorePopular first second) : ¬ MorePopular second first := by
  rw [morePopular_iff_placeOf] at before ⊢
  exact lt_asymm before

end

section

variable {counts others : List (ItemId × Nat)}

theorem nodup_places (distinct : (counts.map Prod.fst).Nodup) : (counts.map placeOf).Nodup := by
  refine List.Nodup.of_map (fun place => (ofLex place).2) ?_
  rw [List.map_map]
  exact distinct

/-- Distinct items are in a strict order once they are sorted. -/
theorem pairwise_mergeSort_popularBefore (distinct : (counts.map Prod.fst).Nodup) :
    (counts.mergeSort popularBefore).Pairwise MorePopular :=
  (Sorting.strict_mergeSort popularBefore_iff_placeOf (nodup_places distinct)).imp
    morePopular_iff_placeOf.mpr

/-- Counts in another order are sorted into the same one. -/
theorem mergeSort_popularBefore_eq_of_perm (distinct : (counts.map Prod.fst).Nodup)
    (perm : counts.Perm others) :
    counts.mergeSort popularBefore = others.mergeSort popularBefore :=
  Sorting.mergeSort_eq_of_perm popularBefore_iff_placeOf (nodup_places distinct) perm

end

/-! ### Ranks -/

/-- The ranks that some counts give, which may come in any order. -/
def ranksOf (counts : List (ItemId × Nat)) : Table Nat :=
  Table.ofList (((counts.mergeSort popularBefore).map Prod.fst).zipIdx 1)

theorem popularityRanks_eq_ranksOf (dataset : Dataset) :
    dataset.popularityRanks = ranksOf dataset.itemCounts := rfl

section

variable {dataset : Dataset} {item : ItemId} {rank : Nat}

theorem perm_byPopularity (dataset : Dataset) : dataset.byPopularity.Perm dataset.items :=
  map_fst_itemCounts dataset ▸ (dataset.itemCounts.mergeSort_perm popularBefore).map Prod.fst

theorem mem_byPopularity : item ∈ dataset.byPopularity ↔ dataset.Offers item :=
  (perm_byPopularity dataset).mem_iff.trans mem_items

theorem nodup_byPopularity (dataset : Dataset) : dataset.byPopularity.Nodup :=
  (perm_byPopularity dataset).nodup_iff.mpr (nodup_items dataset)

theorem pairwise_byPopularity (dataset : Dataset) :
    dataset.byPopularity.Pairwise fun first second =>
      MorePopular (first, dataset.countOf first) (second, dataset.countOf second) := by
  have strict := pairwise_mergeSort_popularBefore
    (map_fst_itemCounts dataset ▸ nodup_items dataset)
  have counted {pair : ItemId × Nat} (member : pair ∈ dataset.itemCounts.mergeSort popularBefore) :
      (pair.1, dataset.countOf pair.1) = pair := by
    have inCounts := (List.mergeSort_perm _ _).mem_iff.mp member
    rw [← (mem_itemCounts.mp inCounts).2]
  rw [byPopularity, List.pairwise_map]
  refine strict.imp_of_mem fun {first second} isFirst isSecond before => ?_
  rwa [counted isFirst, counted isSecond]

theorem entries_popularityRanks (dataset : Dataset) :
    dataset.popularityRanks.entries = dataset.byPopularity.zipIdx 1 := by
  refine Table.entries_ofList ?_
  rw [List.zipIdx_map_fst]
  exact nodup_byPopularity dataset

/-- A rank is the place of an item among all of them, counted from one. -/
theorem find?_popularityRanks_eq_some_iff :
    dataset.popularityRanks.find? item = some rank ↔
      1 ≤ rank ∧ dataset.byPopularity[rank - 1]? = some item := by
  rw [Table.find?_eq_some_iff, entries_popularityRanks, List.mk_mem_zipIdx_iff_le_and_getElem?_sub]

theorem exists_rank_iff :
    (∃ rank, dataset.popularityRanks.find? item = some rank) ↔ dataset.Offers item := by
  rw [← mem_byPopularity, List.mem_iff_getElem?]
  simp only [find?_popularityRanks_eq_some_iff]
  constructor
  · rintro ⟨rank, -, stands⟩
    exact ⟨rank - 1, stands⟩
  · rintro ⟨position, stands⟩
    exact ⟨position + 1, by omega, stands⟩

/-- A rank is the position among all items by popularity. -/
theorem find?_popularityRanks (dataset : Dataset) (item : ItemId) :
    dataset.popularityRanks.find? item = (dataset.byPopularity.idxOf? item).map (· + 1) := by
  cases found : dataset.byPopularity.idxOf? item with
  | none =>
    have unknown := List.idxOf?_eq_none_iff.mp found
    rw [mem_byPopularity, ← exists_rank_iff] at unknown
    exact Option.not_isSome_iff_eq_none.mp (Option.isSome_iff_exists.not.mpr unknown)
  | some position =>
    obtain ⟨within, stands, -⟩ := List.idxOf?_eq_some_iff.mp found
    rw [find?_popularityRanks_eq_some_iff.mpr
      ⟨Nat.le_add_left 1 position, List.getElem?_eq_some_iff.mpr ⟨within, stands⟩⟩]
    rfl

/-- The ranks are the numbers from one to the number of items. -/
theorem exists_item_iff :
    (∃ item, dataset.popularityRanks.find? item = some rank) ↔
      1 ≤ rank ∧ rank ≤ dataset.items.length := by
  simp only [find?_popularityRanks_eq_some_iff, exists_and_left]
  rw [← (perm_byPopularity dataset).length_eq, ← Option.ne_none_iff_exists', ne_eq,
    List.getElem?_eq_none_iff]
  omega

/-- Of two ranked items the one with the lesser rank is the more popular one. -/
theorem rank_lt_rank_iff {first second : ItemId} {other : Nat}
    (isFirst : dataset.popularityRanks.find? first = some rank)
    (isSecond : dataset.popularityRanks.find? second = some other) :
    rank < other ↔
      MorePopular (first, dataset.countOf first) (second, dataset.countOf second) := by
  obtain ⟨atLeastOne, stands⟩ := find?_popularityRanks_eq_some_iff.mp isFirst
  obtain ⟨otherAtLeastOne, standsOther⟩ := find?_popularityRanks_eq_some_iff.mp isSecond
  obtain ⟨within, rfl⟩ := List.getElem?_eq_some_iff.mp stands
  obtain ⟨withinOther, rfl⟩ := List.getElem?_eq_some_iff.mp standsOther
  have strict := List.pairwise_iff_getElem.mp (pairwise_byPopularity dataset)
  constructor
  · intro less
    exact strict _ _ within withinOther (by omega)
  · intro before
    by_contra notLess
    rcases (not_lt.mp notLess).eq_or_lt with same | less
    · subst same
      exact before.asymm before
    · exact before.asymm (strict _ _ withinOther within (by omega))

end

/-! ### Numbering by popularity -/

/-- How the items of training data are counted and numbered. -/
structure Numbered (dataset : Dataset) : Prop where
  /-- The catalog holds each item once. -/
  catalog : dataset.items.Nodup ∧ ∀ item, item ∈ dataset.items ↔ dataset.Offers item
  /-- Every item has a rank, and nothing else has one. -/
  ranked : ∀ item,
    (∃ rank, dataset.popularityRanks.find? item = some rank) ↔ dataset.Offers item
  /-- The ranks are the numbers from one to the number of items. -/
  dense : ∀ rank, (∃ item, dataset.popularityRanks.find? item = some rank) ↔
    1 ≤ rank ∧ rank ≤ dataset.items.length
  /-- No two items share a rank. -/
  distinct : ∀ first second rank, dataset.popularityRanks.find? first = some rank →
    dataset.popularityRanks.find? second = some rank → first = second
  /-- A lesser rank is a greater count, or the same one and a lesser name. -/
  order : ∀ first second rank other, dataset.popularityRanks.find? first = some rank →
    dataset.popularityRanks.find? second = some other →
    (rank < other ↔
      MorePopular (first, dataset.countOf first) (second, dataset.countOf second))
  counted : ∀ item count, (item, count) ∈ dataset.itemCounts ↔
    dataset.Offers item ∧ count = dataset.countOf item
  total : (dataset.itemCounts.map Prod.snd).sum = dataset.size
  /-- Counting one interaction after the other gives these counts and these ranks, in whatever order
  the counts are taken from their table. -/
  tallied : ∀ counts : List (ItemId × Nat), counts.Perm (tally dataset.interactions).entries →
    counts.Perm dataset.itemCounts ∧ ranksOf counts = dataset.popularityRanks
  /-- The interactions may come in any order. -/
  reordered : ∀ other : Dataset, other.interactions.Perm dataset.interactions →
    other.items = dataset.items ∧ other.itemCounts = dataset.itemCounts ∧
      other.popularityRanks = dataset.popularityRanks

/-- Popularity numbers the items of any training data, and nothing but the counts says how. -/
theorem numbered_by_popularity (dataset : Dataset) : dataset.Numbered where
  catalog := ⟨nodup_items dataset, fun _ => mem_items⟩
  ranked := fun _ => exists_rank_iff
  dense := fun _ => exists_item_iff
  distinct := by
    intro first second rank isFirst isSecond
    obtain ⟨-, stands⟩ := find?_popularityRanks_eq_some_iff.mp isFirst
    obtain ⟨-, standsOther⟩ := find?_popularityRanks_eq_some_iff.mp isSecond
    exact Option.some.inj (stands.symm.trans standsOther)
  order := fun _ _ _ _ => rank_lt_rank_iff
  counted := fun _ _ => mem_itemCounts
  total := sum_itemCounts dataset
  tallied := by
    intro counts perm
    have sameCounts := perm.trans (perm_entries_tally dataset)
    have distinct : (counts.map Prod.fst).Nodup :=
      (perm.map Prod.fst).nodup_iff.mpr (tally dataset.interactions).distinct
    refine ⟨sameCounts, ?_⟩
    rw [popularityRanks_eq_ranksOf, ranksOf, ranksOf,
      mergeSort_popularBefore_eq_of_perm distinct sameCounts]
  reordered := by
    intro other perm
    have counts := itemCounts_eq_of_perm perm
    refine ⟨items_eq_of_perm perm, counts, ?_⟩
    rw [popularityRanks_eq_ranksOf, popularityRanks_eq_ranksOf, counts]

/-- Of two items that were met as often, the one with the lesser name has the lesser rank. -/
example : (⟨[⟨"u", "b", none⟩, ⟨"v", "c", none⟩, ⟨"v", "a", none⟩, ⟨"w", "c", none⟩]⟩ :
    Dataset).popularityRanks.entries = [("c", 1), ("a", 2), ("b", 3)] := by cbv

end Dataset

end Holdout
