/-
This file shows that item lists are compared as they are hashed. A ranking says its sequence and an
unordered list says its members, and neither says more. Comparing two unordered lists looks for the
items of the one in the other and never the other way round, which is enough because distinct items
that are as many leave none over; hashing puts the members in the order of their names, which is the
same for the same members.
-/

import Holdout.Proofs.ItemList.Valid
import Mathlib.Data.List.Sort
import Mathlib.Data.String.Basic

namespace Holdout

namespace ItemList

/-! ### What lists say -/

/-- Two lists say the same: the same sequence, or the same members. -/
def Alike (first second : ItemList) : Prop :=
  first.ordered = second.ordered ∧
    if first.ordered then first.ids = second.ids else first.ids.Perm second.ids

section

variable {first second : ItemList}

theorem alike_of_ordered (isOrdered : first.ordered = true) (isOrderedToo : second.ordered = true) :
    Alike first second ↔ first.ids = second.ids := by
  simp [Alike, isOrdered, isOrderedToo]

theorem alike_of_unordered (unordered : first.ordered = false)
    (unorderedToo : second.ordered = false) :
    Alike first second ↔ first.ids.Perm second.ids := by
  simp [Alike, unordered, unorderedToo]

theorem not_alike_of_ne (different : first.ordered ≠ second.ordered) : ¬ Alike first second :=
  fun alike => different alike.1

/-! ### Comparing -/

/-- Distinct items that are as many as others and all among them are the others. -/
theorem perm_iff_subset (valid : first.Valid) (asMany : first.size = second.size) :
    first.ids.Perm second.ids ↔ first.ids ⊆ second.ids := by
  refine ⟨List.Perm.subset, fun subset => ?_⟩
  exact (List.subperm_of_subset valid.distinct subset).perm_of_length_le asMany.symm.le

theorem all_contains_iff : first.ids.all second.contains = true ↔ first.ids ⊆ second.ids := by
  simp only [List.all_eq_true, contains, List.contains_iff_mem]
  exact Iff.rfl

theorem beq_iff_alike (valid : first.Valid) : (first == second) = true ↔ Alike first second := by
  show same first second = true ↔ _
  rw [same, Bool.and_eq_true, Bool.and_eq_true, beq_iff_eq, beq_iff_eq, Alike, and_assoc]
  refine and_congr_right fun _ => ?_
  cases first.ordered with
  | true =>
    rw [if_pos rfl, if_pos rfl, beq_iff_eq]
    exact ⟨And.right, fun sameItems => ⟨congrArg List.length sameItems, sameItems⟩⟩
  | false =>
    rw [if_neg Bool.false_ne_true, if_neg Bool.false_ne_true, all_contains_iff]
    exact ⟨fun ⟨asMany, subset⟩ => (perm_iff_subset valid asMany).mpr subset,
      fun perm => ⟨perm.length_eq, perm.subset⟩⟩

/-! ### Hashing -/

/-- Names in order are the same exactly if they are the same names. -/
theorem mergeSort_names_eq_iff {names others : List ItemId} :
    (names.mergeSort fun name other => decide (name ≤ other)) =
        (others.mergeSort fun name other => decide (name ≤ other)) ↔ names.Perm others := by
  have sorted (names : List ItemId) :=
    List.pairwise_mergeSort' (fun name other : ItemId => name ≤ other) names
  constructor
  · intro same
    exact (List.mergeSort_perm names _).symm.trans (same ▸ List.mergeSort_perm others _)
  · intro perm
    exact ((List.mergeSort_perm names _).trans (perm.trans (List.mergeSort_perm others _).symm)
      ).eq_of_pairwise' (sorted names) (sorted others)

theorem map_text_eq_iff {names others : List ItemId} :
    names.map HashWord.text = others.map HashWord.text ↔ names = others :=
  List.map_inj_right fun _ _ => HashWord.text.inj

/-- The words that go into a hash tell what the list says. -/
theorem hashWords_eq_iff_alike : first.hashWords = second.hashWords ↔ Alike first second := by
  unfold hashWords
  cases isOrdered : first.ordered <;> cases isOrderedToo : second.ordered
  case false.false =>
    simp only [Bool.false_eq_true, if_false, List.cons.injEq, true_and, HashWord.count.injEq,
      map_text_eq_iff, mergeSort_names_eq_iff, List.length_mergeSort,
      alike_of_unordered isOrdered isOrderedToo]
    exact ⟨fun words => words.2.2, fun perm => ⟨perm.length_eq, perm.length_eq, perm⟩⟩
  case true.true =>
    simp only [if_true, List.cons.injEq, true_and, HashWord.count.injEq, map_text_eq_iff,
      alike_of_ordered isOrdered isOrderedToo]
    exact ⟨And.right, fun sameItems => ⟨congrArg List.length sameItems, sameItems⟩⟩
  all_goals
    have different : first.ordered ≠ second.ordered := by simp [isOrdered, isOrderedToo]
    simp [not_alike_of_ne different]

end

/-! ### Equality -/

/-- Two lists are compared by what they say, and hashed in the same way. -/
structure ComparedAsSaid (first second : ItemList) : Prop where
  rankings : first.ordered = true → second.ordered = true →
    ((first == second) = true ↔ first.ids = second.ids)
  members : first.ordered = false → second.ordered = false →
    ((first == second) = true ↔ ∀ item, item ∈ first.ids ↔ item ∈ second.ids)
  apart : first.ordered ≠ second.ordered → (first == second) = false
  /-- Scores and ranks play no part. -/
  bare : ∀ other : ItemList, other.ids = first.ids → other.ordered = first.ordered →
    (other == second) = (first == second) ∧ (second == other) = (second == first) ∧
      other.hashWords = first.hashWords
  hashed : first.hashWords = second.hashWords ↔ (first == second) = true

theorem comparedAsSaid {first second : ItemList} (valid : first.Valid) (validToo : second.Valid) :
    ComparedAsSaid first second where
  rankings isOrdered isOrderedToo :=
    (beq_iff_alike valid).trans (alike_of_ordered isOrdered isOrderedToo)
  members unordered unorderedToo := by
    rw [beq_iff_alike valid, alike_of_unordered unordered unorderedToo]
    exact List.perm_ext_iff_of_nodup valid.distinct validToo.distinct
  apart different := by
    rw [← Bool.not_eq_true, beq_iff_alike valid]
    exact not_alike_of_ne different
  bare other sameIds sameOrder := by
    obtain ⟨_, _, _, _⟩ := other
    obtain ⟨_, _, _, _⟩ := first
    cases sameIds
    cases sameOrder
    exact ⟨rfl, rfl, rfl⟩
  hashed := hashWords_eq_iff_alike.trans (beq_iff_alike valid).symm

/-- Equality of lists is an equivalence, and it is the one that their hashes see. -/
theorem equality_agrees_with_hash :
    (Equivalence fun first second : {list : ItemList // list.Valid} =>
      (first.1 == second.1) = true) ∧
    ∀ first second : ItemList, first.Valid → second.Valid → ComparedAsSaid first second := by
  refine ⟨?_, fun first second valid validToo => comparedAsSaid valid validToo⟩
  -- Lists that feed the same words are equal, so equality is no less of an equivalence.
  have hashed (first second : {list : ItemList // list.Valid}) :
      first.1.hashWords = second.1.hashWords ↔ (first.1 == second.1) = true :=
    (comparedAsSaid first.2 second.2).hashed
  simp only [← hashed]
  exact ⟨fun _ => rfl, Eq.symm, Eq.trans⟩

/-- The same members in another order, scored in one of the lists only. -/
theorem equality_agrees_with_hash_reordered :
    ComparedAsSaid ⟨["b", "a"], some [1.0, 2.0], none, false⟩ ⟨["a", "b"], none, none, false⟩ ∧
      ((⟨["b", "a"], some [1.0, 2.0], none, false⟩ : ItemList) ==
        ⟨["a", "b"], none, none, false⟩) = true :=
  ⟨equality_agrees_with_hash.2 _ _ (.of_ranksTo (by decide) (by simp) (Or.inl rfl))
    (.of_ranksTo (by decide) (by simp) (Or.inl rfl)), by decide⟩

end ItemList

end Holdout
