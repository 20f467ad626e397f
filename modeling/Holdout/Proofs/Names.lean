/-
This file proves that names, which are compared character by character, stand in the same order as
the bytes they are written with. Two characters of which one is less are written so that the lesser
one has the lesser byte where they first differ, and neither ends before that.
-/

import Mathlib.Data.String.Basic

namespace Holdout

namespace Names

/-- The bytes of a name. -/
def bytes (name : String) : List UInt8 := name.toByteArray.data.toList

theorem bytes_eq_flatMap (name : String) :
    bytes name = name.toList.flatMap String.utf8EncodeChar := by
  rw [bytes, ← String.utf8Encode_toList]
  exact List.toList_data_toByteArray

/-! ### Bytes that diverge -/

/-- After a shared beginning, the first sequence goes on with a lesser byte than the second. -/
def Diverge (first second : List UInt8) : Prop :=
  ∃ shared low high lowRest highRest, low < high ∧ first = shared ++ low :: lowRest ∧
    second = shared ++ high :: highRest

theorem Diverge.lt {first second : List UInt8} (diverge : Diverge first second)
    (afterFirst afterSecond : List UInt8) : first ++ afterFirst < second ++ afterSecond := by
  obtain ⟨shared, low, high, lowRest, highRest, less, rfl, rfl⟩ := diverge
  rw [List.append_assoc, List.append_assoc]
  exact List.append_left_lt (List.cons_lt_cons_iff.mpr (Or.inl less))

theorem diverge_head {low high : Nat} {lowRest highRest : List UInt8} (less : low < high)
    (small : high < 256) : Diverge (UInt8.ofNat low :: lowRest) (UInt8.ofNat high :: highRest) := by
  refine ⟨[], _, _, lowRest, highRest, ?_, rfl, rfl⟩
  rw [UInt8.lt_iff_toNat_lt, UInt8.toNat_ofNat', UInt8.toNat_ofNat']
  omega

theorem diverge_cons {low high : Nat} {lowRest highRest : List UInt8} (notMore : low ≤ high)
    (small : high < 256) (later : low = high → Diverge lowRest highRest) :
    Diverge (UInt8.ofNat low :: lowRest) (UInt8.ofNat high :: highRest) := by
  by_cases same : low = high
  · obtain ⟨shared, lowByte, highByte, lowEnd, highEnd, less, rfl, rfl⟩ := later same
    exact ⟨UInt8.ofNat low :: shared, lowByte, highByte, lowEnd, highEnd, less, rfl,
      by rw [same]; rfl⟩
  · exact diverge_head (Nat.lt_of_le_of_ne notMore same) small

/-! ### Characters and names -/

theorem diverge_utf8EncodeChar {first second : Char} (less : first < second) :
    Diverge (String.utf8EncodeChar first) (String.utf8EncodeChar second) := by
  have order : first.val.toNat < second.val.toNat := UInt32.lt_iff_toNat_lt.mp less
  have bound : second.val.toNat < 1114112 := by
    rcases second.valid with low | ⟨-, high⟩
    · exact Nat.lt_trans low (by decide)
    · exact high
  unfold String.utf8EncodeChar
  simp only
  generalize first.val.toNat = low at order
  generalize second.val.toNat = high at order bound
  -- The longer writing begins with the greater byte; of two of one length, the first byte that
  -- differs decides.
  by_cases oneByte : high ≤ 127
  · rw [if_pos oneByte, if_pos (by omega)]
    exact diverge_head order (by omega)
  rw [if_neg oneByte]
  by_cases lowOne : low ≤ 127
  · rw [if_pos lowOne]
    split_ifs <;> exact diverge_head (by omega) (by omega)
  rw [if_neg lowOne]
  by_cases twoBytes : high ≤ 2047
  · rw [if_pos twoBytes, if_pos (by omega)]
    exact diverge_cons (by omega) (by omega) fun _ => diverge_head (by omega) (by omega)
  rw [if_neg twoBytes]
  by_cases lowTwo : low ≤ 2047
  · rw [if_pos lowTwo]
    split_ifs <;> exact diverge_head (by omega) (by omega)
  rw [if_neg lowTwo]
  by_cases threeBytes : high ≤ 65535
  · rw [if_pos threeBytes, if_pos (by omega)]
    exact diverge_cons (by omega) (by omega) fun _ =>
      diverge_cons (by omega) (by omega) fun _ => diverge_head (by omega) (by omega)
  rw [if_neg threeBytes]
  by_cases lowThree : low ≤ 65535
  · rw [if_pos lowThree]
    exact diverge_head (by omega) (by omega)
  rw [if_neg lowThree]
  exact diverge_cons (by omega) (by omega) fun _ =>
    diverge_cons (by omega) (by omega) fun _ =>
      diverge_cons (by omega) (by omega) fun _ => diverge_head (by omega) (by omega)

theorem flatMap_lt_flatMap {first second : List Char} (less : first < second) :
    first.flatMap String.utf8EncodeChar < second.flatMap String.utf8EncodeChar := by
  induction first generalizing second with
  | nil =>
    cases second with
    | nil => cases less
    | cons character rest =>
      obtain ⟨byte, others, written⟩ :=
        List.exists_cons_of_ne_nil (String.utf8EncodeChar_ne_nil (c := character))
      rw [List.flatMap_cons, written]
      exact List.nil_lt_cons _ _
  | cons character rest inductionHypothesis =>
    cases second with
    | nil => cases less
    | cons other others =>
      rw [List.flatMap_cons, List.flatMap_cons]
      rcases List.cons_lt_cons_iff.mp less with here | ⟨rfl, later⟩
      · exact (diverge_utf8EncodeChar here).lt _ _
      · exact List.append_left_lt (inductionHypothesis later)

/-- Names are in the order of their bytes. -/
theorem bytes_lt_bytes {first second : String} : bytes first < bytes second ↔ first < second := by
  have mono {low high : String} (less : low < high) : bytes low < bytes high := by
    rw [bytes_eq_flatMap, bytes_eq_flatMap]
    exact flatMap_lt_flatMap (String.lt_iff_toList_lt.mp less)
  constructor
  · intro less
    rcases lt_trichotomy first second with before | rfl | after
    · exact before
    · exact absurd less (List.lt_irrefl _)
    · exact absurd less (List.lt_asymm (mono after))
  · exact mono

end Names

end Holdout
