/-
This file says what every item list keeps to, however it came about: its items are distinct, its
scores and its ranks are as many as its items, no rank is below one, and the ranks of an ordered
list are its positions. Every builder gives such a list and every view keeps it so, and a list that
keeps to this can be read by position without ever looking past an end.
-/

import Holdout.Codec.ItemList
import Holdout.ItemList.Ranking
import Mathlib.Data.List.Nodup

namespace Holdout

/-- A chain of calls that succeeds has a first call that succeeds, and so does the rest. -/
theorem exists_of_bind {Error Value Other : Type} {first : Except Error Value}
    {next : Value → Except Error Other} {result : Other}
    (succeeds : (first >>= next) = .ok result) :
    ∃ value, first = .ok value ∧ next value = .ok result := by
  cases first with
  | error error => cases succeeds
  | ok value => exact ⟨value, rfl, succeeds⟩

/-- Under distinct names a value is found exactly if it stands under its name. -/
theorem lookup_eq_some_iff_mem {Value : Type} {entries : List (String × Value)} {name : String}
    {value : Value} (distinct : (entries.map Prod.fst).Nodup) :
    entries.lookup name = some value ↔ (name, value) ∈ entries := by
  rw [List.lookup_eq_some_iff]
  constructor
  · rintro ⟨before, after, rfl, -⟩
    exact List.mem_append_right _ List.mem_cons_self
  · intro member
    obtain ⟨before, after, rfl⟩ := List.append_of_mem member
    refine ⟨before, after, rfl, fun entry earlier => ?_⟩
    rw [List.map_append, List.map_cons, List.nodup_append] at distinct
    rw [bne_iff_ne]
    exact (distinct.2.2 _ (List.mem_map_of_mem earlier) _ List.mem_cons_self).symm

namespace ItemList

/-! ### What a list keeps to -/

/-- What every item list keeps to. -/
structure Valid (list : ItemList) : Prop where
  distinct : list.ids.Nodup
  /-- There is a score for each item, if there are scores. -/
  scored : ∀ scores, list.scores = some scores → scores.length = list.ids.length
  /-- There is a rank for each item, if there are ranks. -/
  ranked : ∀ ranks, list.ranks = some ranks → ranks.length = list.ids.length
  /-- Ranks begin at one. -/
  positive : ∀ ranks, list.ranks = some ranks → ∀ rank ∈ ranks, 1 ≤ rank
  /-- The ranks of a ranking are its positions. -/
  inSequence : list.ordered = true → ∀ ranks, list.ranks = some ranks →
    ranks = ranksTo list.ids.length

theorem positive_ranksTo (count : Nat) : ∀ rank ∈ ranksTo count, 1 ≤ rank := by
  intro rank member
  exact (List.mem_range'_1.mp member).1

@[simp] theorem length_ranksTo (count : Nat) : (ranksTo count).length = count := List.length_range'

/-- A list without ranks, or one whose ranks are its positions, only has to have distinct items and
enough scores. -/
theorem Valid.of_ranksTo {list : ItemList} (distinct : list.ids.Nodup)
    (scored : ∀ scores, list.scores = some scores → scores.length = list.ids.length)
    (ranks : list.ranks = none ∨ list.ranks = some (ranksTo list.ids.length)) : list.Valid := by
  have positions {values : List Nat} (given : list.ranks = some values) :
      values = ranksTo list.ids.length := by
    rcases ranks with none | some
    · rw [none] at given
      cases given
    · exact Option.some.inj (given.symm.trans some)
  refine ⟨distinct, scored, fun values given => ?_, fun values given => ?_,
    fun _ values given => positions given⟩
  · rw [positions given, length_ranksTo]
  · rw [positions given]
    exact positive_ranksTo _

/-! ### Builders -/

/-- No item is there twice exactly if the items are distinct and none was seen before. -/
theorem firstRepeated?_eq_none_iff {seen ids : List ItemId} :
    firstRepeated? seen ids = none ↔ ids.Nodup ∧ ∀ item ∈ ids, item ∉ seen := by
  induction ids generalizing seen with
  | nil => simp [firstRepeated?]
  | cons item rest inductionHypothesis =>
    by_cases known : item ∈ seen
    · simp [firstRepeated?, known]
    · simp only [firstRepeated?, known, if_false, inductionHypothesis, List.nodup_cons,
        List.mem_cons, not_or, forall_eq_or_imp, not_false_eq_true, true_and]
      constructor
      · rintro ⟨distinct, others⟩
        exact ⟨⟨fun member => (others item member).1 rfl, distinct⟩,
          fun other member => (others other member).2⟩
      · rintro ⟨⟨fresh, distinct⟩, others⟩
        exact ⟨distinct, fun other member => ⟨fun same => fresh (same ▸ member),
          others other member⟩⟩

/-- A list of items can be built exactly if they are distinct. -/
theorem ofIds_eq_ok_iff {ids : List ItemId} {ordered : Bool} {list : ItemList} :
    ofIds ids ordered = .ok list ↔ ids.Nodup ∧ list = ⟨ids, none, none, ordered⟩ := by
  have distinct : firstRepeated? [] ids = none ↔ ids.Nodup := by
    simp [firstRepeated?_eq_none_iff]
  unfold ofIds
  cases repeated : firstRepeated? [] ids with
  | none => simp [distinct.mp repeated, eq_comm]
  | some item =>
    have notDistinct : ¬ ids.Nodup := fun nodup => by simp [distinct.mpr nodup] at repeated
    simp [notDistinct]

theorem valid_ofIds {ids : List ItemId} {ordered : Bool} {list : ItemList}
    (builds : ofIds ids ordered = .ok list) : list.Valid := by
  obtain ⟨distinct, rfl⟩ := ofIds_eq_ok_iff.mp builds
  exact .of_ranksTo distinct (by simp) (Or.inl rfl)

theorem valid_empty (ordered : Bool) : (empty ordered).Valid :=
  .of_ranksTo List.nodup_nil (by simp [empty]) (Or.inl rfl)

theorem valid_ranked {ids : List ItemId} {list : ItemList} (builds : ranked ids = .ok list) :
    list.Valid := by
  obtain ⟨plain, checks, attaches⟩ := exists_of_bind builds
  obtain ⟨distinct, rfl⟩ := ofIds_eq_ok_iff.mp checks
  cases attaches
  exact .of_ranksTo distinct (by simp) (Or.inr rfl)

/-- Scores can be attached exactly if they are as many as the items. -/
theorem withScores_eq_ok_iff {list after : ItemList} {scores : List Float} :
    list.withScores scores = .ok after ↔
      scores.length = list.ids.length ∧ after = { list with scores := some scores } := by
  unfold withScores
  split <;> simp_all [eq_comm]

theorem valid_withScores {list after : ItemList} {scores : List Float} (valid : list.Valid)
    (attaches : list.withScores scores = .ok after) : after.Valid := by
  obtain ⟨enough, rfl⟩ := withScores_eq_ok_iff.mp attaches
  refine ⟨valid.distinct, fun values given => ?_, valid.ranked, valid.positive,
    valid.inSequence⟩
  rw [← Option.some.inj given, enough]

/-- No rank is out of place exactly if the ranks count on from a position. -/
theorem misplaced?_eq_none_iff {position : Nat} {ranks : List Nat} :
    misplaced? position ranks = none ↔ ranks = List.range' position ranks.length := by
  induction ranks generalizing position with
  | nil => simp [misplaced?]
  | cons rank rest inductionHypothesis =>
    by_cases here : rank = position
    · simp only [misplaced?, here, if_true, inductionHypothesis, List.length_cons,
        List.range'_succ, List.cons.injEq, true_and]
    · simp [misplaced?, here, List.range'_succ]

/-- Ranks can be attached exactly if they are as many as the items, and are the positions of a
ranking or begin at one. -/
theorem withRanks_eq_ok_iff {list after : ItemList} {ranks : List Nat} :
    list.withRanks ranks = .ok after ↔ ranks.length = list.ids.length ∧
      (list.ordered = true → ranks = ranksTo list.ids.length) ∧
      (list.ordered = false → ∀ rank ∈ ranks, 1 ≤ rank) ∧
      after = { list with ranks := some ranks } := by
  unfold withRanks
  by_cases enough : ranks.length = list.ids.length
  · rw [if_neg (not_not_intro enough)]
    cases ordered : list.ordered with
    | true =>
      have inPlace : misplaced? 1 ranks = none ↔ ranks = ranksTo list.ids.length :=
        enough ▸ misplaced?_eq_none_iff
      cases misplaced : misplaced? 1 ranks with
      | none => simp [inPlace.mp misplaced, eq_comm]
      | some found =>
        have apart : ranks ≠ ranksTo list.ids.length := fun same => by
          rw [inPlace.mpr same] at misplaced
          cases misplaced
        simp [apart]
    | false =>
      by_cases zero : 0 ∈ ranks
      · have notPositive : ¬ ∀ rank ∈ ranks, 1 ≤ rank :=
          fun positive => absurd (positive 0 zero) (by decide)
        simp [zero, notPositive]
      · have positive : ∀ rank ∈ ranks, 1 ≤ rank :=
          fun rank member => Nat.one_le_iff_ne_zero.mpr fun isZero => zero (isZero ▸ member)
        rw [if_neg Bool.false_ne_true, if_neg zero]
        exact ⟨fun made => ⟨enough, (absurd · Bool.false_ne_true), fun _ => positive,
          (Except.ok.inj made).symm⟩, fun fits => congrArg Except.ok fits.2.2.2.symm⟩
  · rw [if_pos enough]
    simp [enough]

theorem valid_withRanks {list after : ItemList} {ranks : List Nat} (valid : list.Valid)
    (attaches : list.withRanks ranks = .ok after) : after.Valid := by
  obtain ⟨enough, inSequence, begins, rfl⟩ := withRanks_eq_ok_iff.mp attaches
  cases ordered : list.ordered with
  | true =>
    exact .of_ranksTo valid.distinct valid.scored (Or.inr (congrArg some (inSequence ordered)))
  | false =>
    refine ⟨valid.distinct, valid.scored, fun values given => ?_, fun values given => ?_,
      fun isOrdered => absurd isOrdered Bool.false_ne_true⟩
    · rw [← Option.some.inj given, enough]
    · rw [← Option.some.inj given]
      exact begins ordered

theorem valid_scored {pairs : List (ItemId × Float)} {list : ItemList}
    (builds : scored pairs = .ok list) : list.Valid := by
  obtain ⟨plain, distinct, attaches⟩ := exists_of_bind builds
  exact valid_withScores (valid_ofIds distinct) attaches

/-- Distinct items can be scored, and the scores can be ranked. -/
theorem exists_scored {pairs : List (ItemId × Float)} (distinct : (pairs.map Prod.fst).Nodup) :
    ∃ list, scored pairs = .ok list ∧ list.pairs? = some pairs := by
  refine ⟨⟨pairs.map Prod.fst, some (pairs.map Prod.snd), none, false⟩, ?_, ?_⟩
  · rw [scored, ofIds_eq_ok_iff.mpr ⟨distinct, rfl⟩]
    show withScores _ _ = _
    rw [withScores, if_pos (by simp)]
  · simp [pairs?, List.zip_map']

/-- Ranks are the last part of a list, if there are any. -/
theorem eq_of_attachRanks {plain after : ItemList} {ranks : Option (List Nat)}
    (valid : plain.Valid) (unranked : plain.ranks = none)
    (attaches : (match ranks with
      | some values => plain.withRanks values
      | none => .ok plain) = .ok after) :
    after.Valid ∧ after = { plain with ranks } := by
  cases ranks with
  | none =>
    cases attaches
    exact ⟨valid, by rw [← unranked]⟩
  | some values => exact ⟨valid_withRanks valid attaches, (withRanks_eq_ok_iff.mp attaches).2.2.2⟩

/-- A list that is put together keeps to what a list keeps to, and has the parts as they are. -/
theorem eq_of_ofParts {ids : List ItemId} {scores : Option (List Float)}
    {ranks : Option (List Nat)} {ordered : Bool} {list : ItemList}
    (builds : ofParts ids scores ranks ordered = .ok list) :
    list.Valid ∧ list = ⟨ids, scores, ranks, ordered⟩ := by
  obtain ⟨plain, checks, builds⟩ := exists_of_bind builds
  have valid := valid_ofIds checks
  obtain ⟨-, rfl⟩ := ofIds_eq_ok_iff.mp checks
  cases scores with
  | none => exact eq_of_attachRanks valid rfl builds
  | some values =>
    obtain ⟨before, attaches, builds⟩ := exists_of_bind builds
    have validBefore := valid_withScores valid attaches
    obtain ⟨-, rfl⟩ := withScores_eq_ok_iff.mp attaches
    exact eq_of_attachRanks validBefore rfl builds

theorem valid_ofParts {ids : List ItemId} {scores : Option (List Float)}
    {ranks : Option (List Nat)} {ordered : Bool} {list : ItemList}
    (builds : ofParts ids scores ranks ordered = .ok list) : list.Valid :=
  (eq_of_ofParts builds).1

theorem Valid.withScores_eq {ids : List ItemId} {values : List Float} {ranks : Option (List Nat)}
    {ordered : Bool} (valid : Valid ⟨ids, some values, ranks, ordered⟩) :
    withScores ⟨ids, none, none, ordered⟩ values = .ok ⟨ids, some values, none, ordered⟩ :=
  withScores_eq_ok_iff.mpr ⟨valid.scored values rfl, rfl⟩

theorem Valid.withRanks_eq {ids : List ItemId} {scores : Option (List Float)} {values : List Nat}
    {ordered : Bool} (valid : Valid ⟨ids, scores, some values, ordered⟩) :
    withRanks ⟨ids, scores, none, ordered⟩ values = .ok ⟨ids, scores, some values, ordered⟩ :=
  withRanks_eq_ok_iff.mpr ⟨valid.ranked values rfl,
    fun isOrdered => valid.inSequence isOrdered values rfl, fun _ => valid.positive values rfl, rfl⟩

/-- What a list keeps to is what its parts are checked for. -/
theorem valid_iff_ofParts {list : ItemList} :
    list.Valid ↔ ofParts list.ids list.scores list.ranks list.ordered = .ok list := by
  refine ⟨fun valid => ?_, valid_ofParts⟩
  obtain ⟨ids, scores, ranks, ordered⟩ := list
  unfold ofParts
  rw [ofIds_eq_ok_iff.mpr ⟨valid.distinct, rfl⟩]
  cases scores with
  | none =>
    cases ranks with
    | none => rfl
    | some positions => exact valid.withRanks_eq
  | some values =>
    show withScores ⟨ids, none, none, ordered⟩ values >>= _ = _
    rw [valid.withScores_eq]
    cases ranks with
    | none => rfl
    | some positions => exact valid.withRanks_eq

theorem valid_ofJson {document : Json} {list : ItemList} (reads : ofJson document = .ok list) :
    list.Valid := by
  obtain ⟨members, -, reads⟩ := exists_of_bind reads
  obtain ⟨fields, -, reads⟩ := exists_of_bind reads
  obtain ⟨items, -, reads⟩ := exists_of_bind reads
  obtain ⟨ordered, -, reads⟩ := exists_of_bind reads
  cases builds : ofParts items (fields.scores.getD none) (fields.ranks.getD none) ordered with
  | error error =>
    rw [builds] at reads
    cases reads
  | ok built =>
    rw [builds] at reads
    cases reads
    exact valid_ofParts builds

/-! ### Views -/

theorem top_of_short {list : ItemList} {count : Nat} (short : list.size ≤ count) :
    list.top count = .ok list :=
  if_pos short

theorem top_of_long {list : ItemList} {count : Nat} (isOrdered : list.ordered = true)
    (long : count < list.size) :
    list.top count = .ok ⟨list.ids.take count, list.scores.map (·.take count),
      list.ranks.map (·.take count), true⟩ := by
  rw [top, if_neg (Nat.not_le_of_lt long), isOrdered]
  rfl

/-- A cut leaves a list as it is that is short enough, and takes the first items of a ranking. -/
theorem top_cases {list after : ItemList} {count : Nat} (cuts : list.top count = .ok after) :
    list.size ≤ count ∧ after = list ∨
      count < list.size ∧ list.ordered = true ∧
        after = ⟨list.ids.take count, list.scores.map (·.take count),
          list.ranks.map (·.take count), true⟩ := by
  rcases Nat.lt_or_ge count list.size with long | short
  · rw [top, if_neg (Nat.not_le_of_lt long)] at cuts
    split at cuts
    · cases cuts
    rename_i isOrdered
    cases cuts
    exact Or.inr ⟨long, by simpa using isOrdered, rfl⟩
  · rw [top_of_short short] at cuts
    cases cuts
    exact Or.inl ⟨short, rfl⟩

theorem ids_of_top {list after : ItemList} {count : Nat} (cuts : list.top count = .ok after) :
    after.ids = list.ids.take count := by
  obtain ⟨short, rfl⟩ | ⟨-, -, rfl⟩ := top_cases cuts
  · exact (List.take_of_length_le short).symm
  · rfl

theorem ordered_of_top {list after : ItemList} {count : Nat} (cuts : list.top count = .ok after) :
    after.ordered = list.ordered := by
  obtain ⟨-, rfl⟩ | ⟨-, isOrdered, rfl⟩ := top_cases cuts
  · rfl
  · exact isOrdered.symm

/-- Every ranking can be cut anywhere. -/
theorem exists_top_of_ordered {list : ItemList} (isOrdered : list.ordered = true) (count : Nat) :
    ∃ after, list.top count = .ok after := by
  rcases Nat.lt_or_ge count list.size with long | short
  · exact ⟨_, top_of_long isOrdered long⟩
  · exact ⟨_, top_of_short short⟩

theorem valid_top {list after : ItemList} {count : Nat} (valid : list.Valid)
    (cuts : list.top count = .ok after) : after.Valid := by
  obtain ⟨-, rfl⟩ | ⟨long, isOrdered, rfl⟩ := top_cases cuts
  · exact valid
  have shorter : (list.ids.take count).length = count := List.length_take_of_le (Nat.le_of_lt long)
  refine .of_ranksTo (valid.distinct.sublist (List.take_sublist _ _)) (fun scores given => ?_) ?_
  · obtain ⟨values, before, rfl⟩ := Option.map_eq_some_iff.mp given
    rw [List.length_take, List.length_take, valid.scored values before]
  · cases before : list.ranks with
    | none => exact Or.inl rfl
    | some values =>
      refine Or.inr (congrArg some ?_)
      rw [valid.inSequence isOrdered values before, shorter]
      exact List.take_range'_of_length_ge (Nat.le_of_lt long)

theorem map_fst_filter_zip {Value : Type} (kept : ItemId → Bool) {ids : List ItemId}
    {values : List Value} (same : values.length = ids.length) :
    ((ids.zip values).filter fun pair => kept pair.1).map Prod.fst = ids.filter kept := by
  have enough := Nat.le_of_eq same.symm
  conv_rhs => rw [← List.map_fst_zip enough, List.filter_map]
  rfl

theorem keepBeside_map {Value : Type} (kept : ItemId → Bool) (pairs : List (ItemId × Value)) :
    keepBeside kept (pairs.map Prod.fst) (pairs.map Prod.snd) =
      (pairs.filter fun pair => kept pair.1).map Prod.snd := by
  rw [keepBeside, List.zip_map', List.map_id']

theorem length_keepBeside {Value : Type} (kept : ItemId → Bool) {ids : List ItemId}
    {values : List Value} (same : values.length = ids.length) :
    (keepBeside kept ids values).length = (ids.filter kept).length := by
  rw [keepBeside, List.length_map, ← map_fst_filter_zip kept same, List.length_map]

theorem valid_without {list : ItemList} (excluded : ItemList) (valid : list.Valid) :
    (list.without excluded).Valid := by
  refine .of_ranksTo (valid.distinct.filter _) (fun scores given => ?_) ?_
  · obtain ⟨values, before, rfl⟩ := Option.map_eq_some_iff.mp given
    exact length_keepBeside _ (valid.scored values before)
  · simp only [without]
    split
    · exact Or.inr rfl
    · exact Or.inl rfl

theorem cut_sublist {Element : Type} (limit : Option Nat) (elements : List Element) :
    (cut limit elements).Sublist elements := by
  cases limit with
  | none => exact List.Sublist.refl _
  | some count => exact List.take_sublist _ _

theorem length_cut {Element : Type} (limit : Option Nat) (elements : List Element) :
    (cut limit elements).length = limit.elim elements.length (min · elements.length) := by
  cases limit with
  | none => rfl
  | some count => exact List.length_take

theorem size_eq_of_cut {list other : ItemList} {limit : Option Nat}
    (ids : list.ids = cut limit other.ids) :
    list.size = limit.elim other.size (min · other.size) := by
  rw [size, ids, length_cut]
  rfl

theorem isEmpty_iff_size {list : ItemList} : list.isEmpty = true ↔ list.size = 0 :=
  List.isEmpty_iff_length_eq_zero

theorem valid_ofRanking {pairs : List (ItemId × Float)} (distinct : (pairs.map Prod.fst).Nodup) :
    (ofRanking pairs).Valid :=
  .of_ranksTo distinct (by simp [ofRanking]) (Or.inr (by simp [ofRanking]))

/-- The scored items of a list are its items with its scores. -/
theorem Valid.pairs_eq {list : ItemList} {pairs : List (ItemId × Float)} (valid : list.Valid)
    (given : list.pairs? = some pairs) :
    pairs.map Prod.fst = list.ids ∧ list.scores = some (pairs.map Prod.snd) := by
  obtain ⟨scores, before, rfl⟩ := Option.map_eq_some_iff.mp given
  have same := valid.scored scores before
  exact ⟨List.map_fst_zip (Nat.le_of_eq same.symm),
    before.trans (congrArg some (List.map_snd_zip (Nat.le_of_eq same)).symm)⟩

theorem rankTop_eq_ok_iff {list after : ItemList} {limit : Option Nat} :
    list.rankTop limit = .ok after ↔ ∃ pairs, list.pairs? = some pairs ∧
      after = ofRanking (cut limit (pairs.mergeSort precedes)) := by
  unfold rankTop
  cases list.pairs? <;> simp [eq_comm]

theorem valid_rankTop {list after : ItemList} {limit : Option Nat} (valid : list.Valid)
    (ranks : list.rankTop limit = .ok after) : after.Valid := by
  obtain ⟨pairs, given, rfl⟩ := rankTop_eq_ok_iff.mp ranks
  refine valid_ofRanking (List.Nodup.sublist ((cut_sublist _ _).map Prod.fst) ?_)
  rw [((pairs.mergeSort_perm precedes).map Prod.fst).nodup_iff, (valid.pairs_eq given).1]
  exact valid.distinct

end ItemList

end Holdout
