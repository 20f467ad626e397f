/-
This file proves that item lists survive their JSON text. What a list keeps to is what its reader
checks, so a list that came about in any way is read from its text as it is, item by item, score by
score and rank by rank. The one exception is a list with a score that is no finite number: such a
score has no text of its own, null is written for it, and the reader refuses the whole list.
-/

import Holdout.Proofs.ItemList.History
import Holdout.Proofs.Json.Values

namespace Holdout

namespace ItemList

/-! ### What the text of a list can hold -/

/-- Whether every score of a list is a finite number. -/
def FiniteScores (list : ItemList) : Prop :=
  ∀ scores ∈ list.scores, ∀ score ∈ scores, score.isFinite = true

/-- Whether the texts of the scores of a list are read as the scores, as far as they have a text. -/
def ScoresReadBack (list : ItemList) : Prop :=
  ∀ scores ∈ list.scores, ∀ score ∈ scores, score.isFinite = true → Json.ReadsBack (.double score)

/-- Whether the ranks of a list are numbers of 32 bits. -/
def RanksFit (list : ItemList) : Prop := ∀ ranks ∈ list.ranks, ∀ rank ∈ ranks, rank < rankBound

instance (list : ItemList) : Decidable list.FiniteScores :=
  inferInstanceAs (Decidable (∀ scores ∈ list.scores, ∀ score ∈ scores, _))

instance (list : ItemList) : Decidable list.ScoresReadBack :=
  inferInstanceAs (Decidable (∀ scores ∈ list.scores, ∀ score ∈ scores, _ → _))

instance (list : ItemList) : Decidable list.RanksFit :=
  inferInstanceAs (Decidable (∀ ranks ∈ list.ranks, ∀ rank ∈ ranks, _))

/-! ### The document of a list -/

/-- The member that holds the scores, if there are any. -/
def scoreMembers (list : ItemList) : List (Option String × Json) :=
  (list.scores.map fun scores => Json.member "scores" (.array (scores.map .ofFloat))).toList

/-- The member that holds the ranks, if there are any. -/
def rankMembers (list : ItemList) : List (Option String × Json) :=
  (list.ranks.map fun ranks => Json.member "ranks" (.array (ranks.map .ofNat))).toList

theorem toJson_eq (list : ItemList) :
    list.toJson = .object (Json.member "items" (.array (list.ids.map .string)) ::
      (list.scoreMembers ++ (list.rankMembers ++ [Json.member "ordered" (.bool list.ordered)]))) :=
  congrArg (Json.object ∘ List.cons _) (List.append_assoc _ _ _)

theorem writable_toJson {list : ItemList} (fits : list.RanksFit) (reads : list.ScoresReadBack) :
    list.toJson.Writable := by
  have items : (Json.array (list.ids.map .string)).Writable :=
    Json.writable_map fun item _ => .string item
  have scores (values : List Float) (given : list.scores = some values) :
      (Json.array (values.map .ofFloat)).Writable :=
    Json.writable_map fun score member => Json.writable_ofFloat (reads values given score member)
  have ranks (values : List Nat) (given : list.ranks = some values) :
      (Json.array (values.map .ofNat)).Writable :=
    Json.writable_map fun rank member => .number (Json.readsBack_natural
      (Nat.lt_trans (fits values given rank member) (by decide)))
  rw [toJson_eq]
  refine .object ?_ ?_
  all_goals cases givenScores : list.scores <;> cases givenRanks : list.ranks
  all_goals simp_all [scoreMembers, rankMembers, Json.member, Json.Writable.bool]

/-! ### What is found in it -/

theorem readField_items (ids : List ItemId) :
    readField {} "items" (.array (ids.map .string)) = .ok { items := some ids } := by
  have found : Json.asList Json.asString (.array (ids.map .string)) = .ok ids :=
    Json.asList_map fun _ _ => rfl
  rw [readField, Json.setOnce_none, found]
  rfl

/-- The scores that stand behind the items are found if they are all finite. -/
theorem foldFields_scores {list : ItemList} (finite : list.FiniteScores)
    (ids : List ItemId) (rest : List (Option String × Json)) :
    Json.foldFields readField { items := some ids } (list.scoreMembers ++ rest) =
      Json.foldFields readField { items := some ids, scores := list.scores.map some } rest := by
  rw [scoreMembers]
  cases given : list.scores with
  | none => rfl
  | some scores =>
    have found := Json.asOption_asList_map fun score member =>
      Json.asFloat_ofFloat (finite scores given score member)
    refine Json.foldFields_member rest ?_
    rw [readField, Json.setOnce_none, found]
    rfl

/-- One score that is not finite refuses the list, whatever comes behind the scores. -/
theorem foldFields_scores_error {list : ItemList} (unbounded : ¬ list.FiniteScores)
    (ids : List ItemId) (rest : List (Option String × Json)) :
    Json.foldFields readField { items := some ids } (list.scoreMembers ++ rest) =
      .error .shape := by
  simp only [FiniteScores, not_forall] at unbounded
  obtain ⟨scores, given, score, member, unbounded⟩ := unbounded
  have refused : Json.asOption (Json.asList Json.asFloat) (.array (scores.map .ofFloat)) =
      .error .shape :=
    congrArg (Except.map some) (Json.asList_map_error member
      (Json.asFloat_ofFloat_of_not_finite unbounded) fun _ _ _ => Json.eq_shape_of_asFloat_ofFloat)
  rw [scoreMembers, Option.mem_def.mp given]
  refine Json.foldFields_member_error rest ?_
  rw [readField, Json.setOnce_none, refused]
  rfl

theorem foldFields_ranks {list : ItemList} (fits : list.RanksFit) (ids : List ItemId)
    (scores : Option (Option (List Float))) (rest : List (Option String × Json)) :
    Json.foldFields readField { items := some ids, scores } (list.rankMembers ++ rest) =
      Json.foldFields readField { items := some ids, scores, ranks := list.ranks.map some }
        rest := by
  rw [rankMembers]
  cases given : list.ranks with
  | none => rfl
  | some ranks =>
    have found : Json.asOption (Json.asList (Json.asNat rankBound)) (.array (ranks.map .ofNat)) =
        .ok (some ranks) :=
      Json.asOption_asList_map fun rank member => if_pos (fits ranks given rank member)
    refine Json.foldFields_member rest ?_
    rw [readField, Json.setOnce_none, found]
    rfl

/-- The reader goes through the document with the items found. -/
theorem ofJson_toJson_eq (list : ItemList) : ofJson list.toJson = (do
    let fields ← Json.foldFields readField { items := some list.ids }
      (list.scoreMembers ++ (list.rankMembers ++ [Json.member "ordered" (.bool list.ordered)]))
    let items ← Json.required fields.items
    let ordered ← Json.required fields.ordered
    (ofParts items (fields.scores.getD none) (fields.ranks.getD none) ordered).mapError .list) := by
  rw [toJson_eq, ← Json.foldFields_member _ (readField_items list.ids)]
  rfl

/-- Every part of a list is found in its document again, and passes the checks. -/
theorem ofJson_toJson {list : ItemList} (valid : list.Valid) (fits : list.RanksFit)
    (finite : list.FiniteScores) : ofJson list.toJson = .ok list := by
  rw [ofJson_toJson_eq, foldFields_scores finite, foldFields_ranks fits]
  have checked := valid_iff_ofParts.mp valid
  obtain ⟨ids, scores, ranks, ordered⟩ := list
  have parts {Value : Type} (part : Option Value) : (part.map some).getD none = part := by
    cases part <;> rfl
  show (ofParts ids ((scores.map some).getD none) ((ranks.map some).getD none) ordered).mapError
    DecodingError.list = _
  rw [parts, parts, checked]
  rfl

/-- A score that is no finite number refuses the list. -/
theorem ofJson_toJson_of_not_finite {list : ItemList} (unbounded : ¬ list.FiniteScores) :
    ofJson list.toJson = .error .shape := by
  rw [ofJson_toJson_eq, foldFields_scores_error unbounded]
  rfl

/-! ### The text of a list -/

/-- A list that came about in any way, and went through any calls since, is read from its text as
it is: the same items in the same sequence, the same scores and ranks, the same flag. It is refused
if, and only if, one of its scores is no finite number. -/
theorem text_read {origin : Origin} {list : ItemList} (builds : origin.build? = some list)
    (changes : List Change) (fits : (list.after changes).RanksFit)
    (reads : (list.after changes).ScoresReadBack) :
    Json.decodeText ofJson (list.after changes).toJson.render =
      if (list.after changes).FiniteScores then .ok (list.after changes) else .error .shape := by
  rw [Json.decodeText_render ofJson (writable_toJson fits reads)]
  split
  · rename_i finite
    exact ofJson_toJson (valid_after changes (valid_build builds)) fits finite
  · rename_i unbounded
    exact ofJson_toJson_of_not_finite unbounded

/-- Names that have to be escaped, and a ranking with its scores and ranks. -/
theorem text_read_escaped : ∃ list : ItemList,
    (Origin.ofIds ["", "\"a\\\"", "\x00\n"] true).build? = some list ∧
      ∃ ranking, list.after [.withScores [0.5, -2.25, 0.0], .withRanks [1, 2, 3]] = ranking ∧
        ranking.RanksFit ∧ ranking.ScoresReadBack ∧ ranking.FiniteScores ∧
        Json.decodeText ofJson ranking.toJson.render = .ok ranking := by
  have read := @text_read (.ofIds ["", "\"a\\\"", "\x00\n"] true) _ rfl
    [.withScores [0.5, -2.25, 0.0], .withRanks [1, 2, 3]] (by decide +kernel) (by decide +kernel)
  rw [if_pos (by decide +kernel)] at read
  exact ⟨_, rfl, _, rfl, by decide +kernel, by decide +kernel, by decide +kernel, read⟩

/-- A scorer may answer with a score that is no number. Its list has a text, which is not that of
any list. -/
theorem score_without_text : ∃ list : ItemList,
    (Origin.scored [("a", 0.0 / 0.0)]).build? = some list ∧
      list.toJson.render = "\x7b\"items\":[\"a\"],\"scores\":[null],\"ordered\":false\x7d" ∧
      Json.decodeText ofJson list.toJson.render = .error .shape := by
  refine ⟨_, rfl, by decide +kernel, ?_⟩
  rw [Json.decodeText_render ofJson (writable_toJson (by decide +kernel) (by decide +kernel))]
  exact ofJson_toJson_of_not_finite (by decide +kernel)

end ItemList

end Holdout
