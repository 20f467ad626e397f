/-
This file follows an item list through any calls that are made on it, those that are refused
included, and shows that it stays what a list has to be. It also goes through the positions at
which the views of a list look, in its items and in what stands beside them: every one of them is
within, and what the views answer is what stands there.
-/

import Holdout.Proofs.ItemList.Valid

namespace Holdout

namespace ItemList

/-! ### Looking at positions -/

section Positions

variable {Value : Type} (values : List Value)

theorem map_getElem?_range : (List.range values.length).map (values[·]?) = values.map some := by
  refine List.ext_getElem? fun position => ?_
  by_cases within : position < values.length
  · simp [within]
  · rw [List.getElem?_eq_none (by simpa using within),
      List.getElem?_eq_none (by simpa using within)]

/-- To keep some of the values is to keep the positions of these. -/
theorem map_getElem?_filter (kept : Value → Bool) :
    ((List.range values.length).filter fun position => values[position]?.any kept).map
      (values[·]?) = (values.filter kept).map some := by
  calc ((List.range values.length).filter fun position => values[position]?.any kept).map
        (values[·]?)
      = ((List.range values.length).map (values[·]?)).filter (Option.any kept) :=
        (List.filter_map (f := (values[·]?)) (p := Option.any kept)).symm
    _ = (values.map some).filter (Option.any kept) := by rw [map_getElem?_range]
    _ = (values.filter kept).map some := List.filter_map

theorem map_getElem?_keepBeside (kept : ItemId → Bool) {ids : List ItemId}
    (same : values.length = ids.length) :
    ((List.range ids.length).filter fun position => ids[position]?.any kept).map (values[·]?) =
      (keepBeside kept ids values).map some := by
  obtain ⟨pairs, rfl, rfl⟩ : ∃ pairs, ids = pairs.map Prod.fst ∧ values = pairs.map Prod.snd :=
    ⟨ids.zip values, (List.map_fst_zip (Nat.le_of_eq same.symm)).symm,
      (List.map_snd_zip (Nat.le_of_eq same)).symm⟩
  have chosen := congrArg (List.map (Option.map Prod.snd))
    (map_getElem?_filter pairs fun pair => kept pair.1)
  rw [List.map_map, List.map_map] at chosen
  rw [keepBeside_map, List.map_map, List.length_map]
  simp only [List.getElem?_map, Option.any_map]
  exact chosen

/-- Whether what stands at one position may come before what stands at another. -/
def bothPrecede (before : Value → Value → Bool) : Option Value → Option Value → Bool
  | some first, some second => before first second
  | _, _ => false

/-- To sort the values is to sort their positions by what stands there. -/
theorem map_getElem?_mergeSort (before : Value → Value → Bool) :
    ((List.range values.length).mergeSort fun first second =>
        bothPrecede before values[first]? values[second]?).map (values[·]?) =
      (values.mergeSort before).map some := by
  rw [List.map_mergeSort (f := (values[·]?)) (s := bothPrecede before) fun _ _ _ _ => rfl,
    map_getElem?_range]
  exact (List.map_mergeSort (f := some) fun _ _ _ _ => rfl).symm

end Positions

theorem map_cut {Element Other : Type} (limit : Option Nat) (change : Element → Other)
    (elements : List Element) :
    (cut limit elements).map change = cut limit (elements.map change) := by
  cases limit with
  | none => rfl
  | some count => exact List.map_take

/-- What stands beside an item is what stands at its position. -/
theorem lookup_zip {Value : Type} {ids : List ItemId} {values : List Value} {item : ItemId}
    (same : values.length = ids.length) :
    (ids.zip values).lookup item = values[ids.idxOf item]? := by
  induction ids generalizing values with
  | nil => simp [List.eq_nil_of_length_eq_zero same]
  | cons first rest inductionHypothesis =>
    cases values with
    | nil => simp
    | cons value others =>
      by_cases here : item = first
      · simp [here]
      · have there : (item == first) = false := beq_eq_false_iff_ne.mpr here
        rw [List.zip_cons_cons, List.lookup_cons, there, List.idxOf_cons_ne _ (Ne.symm here),
          List.getElem?_cons_succ]
        exact inductionHypothesis (by simpa using same)

theorem idxOf?_of_mem {ids : List ItemId} {item : ItemId} (member : item ∈ ids) :
    ids.idxOf? item = some (ids.idxOf item) := by
  induction ids with
  | nil => cases member
  | cons first rest inductionHypothesis =>
    rw [List.idxOf?_cons, List.idxOf_cons]
    by_cases here : first = item
    · simp [here]
    · rw [beq_eq_false_iff_ne.mpr here]
      simp [inductionHypothesis (List.mem_of_ne_of_mem (Ne.symm here) member)]

/-! ### What the views of a list look at -/

/-- The item and the score at a position, if there are both. -/
def entry? (list : ItemList) (scores : List Float) (position : Nat) : Option (ItemId × Float) := do
  let item ← list.ids[position]?
  let score ← scores[position]?
  return (item, score)

/-- The positions of the best items, which is what a ranking by score goes through. -/
def bestPositions (list : ItemList) (scores : List Float) (limit : Option Nat) : List Nat :=
  cut limit ((List.range list.size).mergeSort fun first second =>
    bothPrecede precedes (list.entry? scores first) (list.entry? scores second))

/-- The positions of the items that are not in `excluded`, which is what `without` goes through. -/
def keptPositions (list excluded : ItemList) : List Nat :=
  (List.range list.size).filter fun position =>
    list.ids[position]?.any fun item => !excluded.contains item

/-- Every view of the list finds something at each position where it looks, and answers with it. -/
structure Indexed (list : ItemList) : Prop where
  /-- The score of an item stands at its position. -/
  scoreOf : ∀ scores, list.scores = some scores → ∀ item ∈ list.ids, ∃ score,
    scores[list.ids.idxOf item]? = some score ∧ list.scoreOf? item = some score
  /-- The rank that stands at the position of an item is the rank that the list tells of it. -/
  rankOf : list.ordered = true → ∀ ranks, list.ranks = some ranks → ∀ item ∈ list.ids, ∃ rank,
    ranks[list.ids.idxOf item]? = some rank ∧ list.rankOf? item = some rank
  /-- A list that is cut has enough scores and ranks to be cut. -/
  top : ∀ count < list.size, (∀ scores, list.scores = some scores → count ≤ scores.length) ∧
    ∀ ranks, list.ranks = some ranks → count ≤ ranks.length
  /-- A ranking compares positions that hold an item and a score. -/
  compared : ∀ scores, list.scores = some scores → ∀ position < list.size,
    (list.entry? scores position).isSome = true
  /-- A ranking holds what stands at the best positions. -/
  rankTop : ∀ scores, list.scores = some scores → ∀ limit, ∃ best,
    list.rankTop limit = .ok (ofRanking best) ∧
      (list.bestPositions scores limit).map (list.entry? scores) = best.map some
  /-- The items and the scores that are kept stand at the kept positions. -/
  without : ∀ excluded,
    (list.keptPositions excluded).map (list.ids[·]?) = (list.without excluded).ids.map some ∧
      ∀ scores, list.scores = some scores → ∃ kept, (list.without excluded).scores = some kept ∧
        (list.keptPositions excluded).map (scores[·]?) = kept.map some

theorem entry?_eq_getElem?_zip (list : ItemList) (scores : List Float) :
    list.entry? scores = ((list.ids.zip scores)[·]?) := by
  funext position
  rw [List.zip, List.getElem?_zipWith, entry?]
  cases list.ids[position]? <;> cases scores[position]? <;> rfl

theorem Valid.indexed {list : ItemList} (valid : list.Valid) : list.Indexed where
  -- Scores and ranks are as many as the items, so what is within the items is within them.
  scoreOf scores given item member := by
    have within : list.ids.idxOf item < scores.length := by
      rw [valid.scored scores given]
      exact List.idxOf_lt_length_of_mem member
    refine ⟨scores[list.ids.idxOf item], List.getElem?_eq_getElem within, ?_⟩
    rw [scoreOf?, pairs?, given, Option.map_some, Option.bind_some,
      lookup_zip (valid.scored scores given)]
    exact List.getElem?_eq_getElem within
  rankOf isOrdered ranks given item member := by
    have within := List.idxOf_lt_length_of_mem member
    refine ⟨list.ids.idxOf item + 1, ?_, ?_⟩
    · rw [valid.inSequence isOrdered ranks given, ranksTo, List.getElem?_range' within,
        Nat.one_mul, Nat.add_comm]
    · rw [rankOf?, if_pos isOrdered, idxOf?_of_mem member]
      rfl
  top count less := by
    refine ⟨fun scores given => ?_, fun ranks given => ?_⟩
    · rw [valid.scored scores given]
      exact Nat.le_of_lt less
    · rw [valid.ranked ranks given]
      exact Nat.le_of_lt less
  compared scores given position less := by
    rw [entry?_eq_getElem?_zip, Option.isSome_iff_exists]
    refine ⟨_, List.getElem?_eq_getElem ?_⟩
    rw [List.length_zip, valid.scored scores given, Nat.min_self]
    exact less
  rankTop scores given limit := by
    refine ⟨cut limit ((list.ids.zip scores).mergeSort precedes), ?_, ?_⟩
    · exact rankTop_eq_ok_iff.mpr ⟨_, by rw [pairs?, given]; rfl, rfl⟩
    · have size : list.size = (list.ids.zip scores).length := by
        rw [List.length_zip, valid.scored scores given, Nat.min_self]
        rfl
      rw [bestPositions, map_cut, map_cut, entry?_eq_getElem?_zip, size,
        map_getElem?_mergeSort]
  without excluded := by
    refine ⟨map_getElem?_filter list.ids _, fun scores given => ⟨_, ?_,
      map_getElem?_keepBeside _ _ (valid.scored scores given)⟩⟩
    rw [ItemList.without, given]
    rfl

/-! ### Histories -/

/-- How a list comes about. -/
inductive Origin where
  | ofIds (ids : List ItemId) (ordered : Bool)
  | unordered (ids : List ItemId)
  | ranked (ids : List ItemId)
  | scored (pairs : List (ItemId × Float))
  | empty (ordered : Bool)
  | ofJson (document : Json)

/-- The list, unless its builder refuses. -/
def Origin.build? : Origin → Option ItemList
  | .ofIds ids ordered => (ItemList.ofIds ids ordered).toOption
  | .unordered ids => (ItemList.unordered ids).toOption
  | .ranked ids => (ItemList.ranked ids).toOption
  | .scored pairs => (ItemList.scored pairs).toOption
  | .empty ordered => some (ItemList.empty ordered)
  | .ofJson document => (ItemList.ofJson document).toOption

/-- A call that makes one list of another. -/
inductive Change where
  | withScores (scores : List Float)
  | withRanks (ranks : List Nat)
  | top (count : Nat)
  | rankTop (limit : Option Nat)
  | without (excluded : ItemList)

def Change.apply (list : ItemList) : Change → Except ItemListError ItemList
  | .withScores scores => list.withScores scores
  | .withRanks ranks => list.withRanks ranks
  | .top count => list.top count
  | .rankTop limit => list.rankTop limit
  | .without excluded => .ok (list.without excluded)

/-- The list after a call: what the call gives, or the list as it was if the call is refused. -/
def changed (list : ItemList) (change : Change) : ItemList :=
  match change.apply list with
  | .ok after => after
  | .error _ => list

/-- The list after these calls. -/
def after (list : ItemList) (changes : List Change) : ItemList := changes.foldl changed list

theorem toOption_eq_some {Error Value : Type} {result : Except Error Value} {value : Value} :
    result.toOption = some value ↔ result = .ok value := by
  cases result <;> simp [Except.toOption]

theorem valid_build {origin : Origin} {list : ItemList} (builds : origin.build? = some list) :
    list.Valid := by
  cases origin with
  | empty ordered =>
    cases builds
    exact valid_empty ordered
  | ofIds ids ordered => exact valid_ofIds (toOption_eq_some.mp builds)
  | unordered ids => exact valid_ofIds (toOption_eq_some.mp builds)
  | ranked ids => exact valid_ranked (toOption_eq_some.mp builds)
  | scored pairs => exact valid_scored (toOption_eq_some.mp builds)
  | ofJson document => exact valid_ofJson (toOption_eq_some.mp builds)

theorem valid_apply {list after : ItemList} {change : Change} (valid : list.Valid)
    (applies : change.apply list = .ok after) : after.Valid := by
  cases change with
  | withScores scores => exact valid_withScores valid applies
  | withRanks ranks => exact valid_withRanks valid applies
  | top count => exact valid_top valid applies
  | rankTop limit => exact valid_rankTop valid applies
  | without excluded =>
    cases applies
    exact valid_without excluded valid

theorem valid_changed {list : ItemList} (change : Change) (valid : list.Valid) :
    (list.changed change).Valid := by
  unfold changed
  split
  · rename_i applies
    exact valid_apply valid applies
  · exact valid

theorem valid_after {list : ItemList} (changes : List Change) (valid : list.Valid) :
    (list.after changes).Valid := by
  induction changes generalizing list with
  | nil => exact valid
  | cons change rest inductionHypothesis => exact inductionHypothesis (valid_changed change valid)

/-- A list that came about in any way, and went through any calls since, holds distinct items with
a score and a rank for each of them or none, its ranks begin at one and are its positions if it is
ordered, and none of its views ever looks past an end. -/
theorem representation_kept {origin : Origin} {list : ItemList}
    (builds : origin.build? = some list) (changes : List Change) :
    (list.after changes).Valid ∧ (list.after changes).Indexed := by
  have valid := valid_after changes (valid_build builds)
  exact ⟨valid, valid.indexed⟩

/-- The first cut is refused, as the list is not ordered yet. -/
theorem representation_kept_ranking : ∃ list : ItemList,
    (Origin.scored [("b", 1.5), ("a", 2.5)]).build? = some list ∧
      (list.after [.top 1, .rankTop none, .top 1]).Valid ∧
      (list.after [.top 1, .rankTop none, .top 1]).Indexed :=
  ⟨_, rfl, @representation_kept (.scored [("b", 1.5), ("a", 2.5)]) _ rfl _⟩

end ItemList

end Holdout
