/-
This file says what sorting gives, whatever is sorted. Every comparison that something is sorted by
compares places in a linear order. Sorted elements are in the order of their places, what stood in
this order already stays as it stood, and where no place is taken twice, there is one order only.
-/

import Mathlib.Data.List.Nodup
import Mathlib.Order.Lattice

namespace Holdout

namespace Sorting

variable {Element Place : Type} [LinearOrder Place] {atMost : Element → Element → Bool}
  {place : Element → Place} {elements others : List Element}

section

variable (compares : ∀ first second, atMost first second = true ↔ place first ≤ place second)

include compares

theorem atMost_trans (first second third : Element) (before : atMost first second = true)
    (after : atMost second third = true) : atMost first third = true := by
  rw [compares] at before after ⊢
  exact before.trans after

theorem atMost_total (first second : Element) :
    (atMost first second || atMost second first) = true := by
  rw [Bool.or_eq_true, compares, compares]
  exact le_total _ _

/-- Sorted elements are in the order of their places. -/
theorem ascending_mergeSort (elements : List Element) :
    (elements.mergeSort atMost).Pairwise fun first second => place first ≤ place second :=
  (List.pairwise_mergeSort (atMost_trans compares) (atMost_total compares) elements).imp
    (compares _ _).mp

/-- Distinct places are in a strict order once they are sorted. -/
theorem strict_mergeSort (distinct : (elements.map place).Nodup) :
    (elements.mergeSort atMost).Pairwise fun first second => place first < place second := by
  have apart : ((elements.mergeSort atMost).map place).Nodup :=
    ((elements.mergeSort_perm atMost).map place).nodup_iff.mpr distinct
  exact (ascending_mergeSort compares elements).imp₂ (fun _ _ => lt_of_le_of_ne)
    (List.pairwise_map.mp apart)

/-- Where no place is taken twice, elements in another order are sorted into the same one. -/
theorem mergeSort_eq_of_perm (distinct : (elements.map place).Nodup)
    (perm : elements.Perm others) : elements.mergeSort atMost = others.mergeSort atMost := by
  have same : (elements.mergeSort atMost).Perm (others.mergeSort atMost) :=
    (elements.mergeSort_perm atMost).trans (perm.trans (others.mergeSort_perm atMost).symm)
  exact same.eq_of_pairwise (fun _ _ _ _ before after => absurd before (lt_asymm after))
    (strict_mergeSort compares distinct)
    (strict_mergeSort compares ((perm.map place).nodup_iff.mp distinct))

/-- A part that is in order already stays as it stood. -/
theorem filter_mergeSort {kept : Element → Bool}
    (inOrder : (elements.filter kept).Pairwise fun first second => place first ≤ place second) :
    (elements.mergeSort atMost).filter kept = elements.filter kept := by
  have stays := (List.sublist_mergeSort (atMost_trans compares) (atMost_total compares)
    (inOrder.imp (compares _ _).mpr) List.filter_sublist).filter kept
  rw [List.filter_filter] at stays
  simp only [Bool.and_self] at stays
  exact (stays.eq_of_length ((elements.mergeSort_perm atMost).filter kept).length_eq.symm).symm

end

end Sorting

end Holdout
