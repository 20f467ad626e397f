/-
This file says what a table holds after its entries were put in, or only offered. Pairs with
distinct names are its entries, in their order. What is found under a name is the value that was put
there last, or the one that was offered there first; and the names of a table of offers are in the
order in which they first came.
-/

import Holdout.Proofs.ItemList.Valid
import Holdout.Table
import Mathlib.Data.List.Induction
import Mathlib.Data.List.Perm.Subperm

namespace Holdout

/-! ### Entries -/

section

variable {Name Value : Type} [DecidableEq Name]

theorem lookup_cons_eq_ite (name other : Name) (value : Value) (entries : List (Name × Value)) :
    ((name, value) :: entries).lookup other =
      if other = name then some value else entries.lookup other := by
  by_cases same : other = name
  · rw [if_pos same, same, List.lookup_cons_self]
  · rw [if_neg same, List.lookup_cons, beq_false_of_ne same]

theorem lookup_putEntry (name other : Name) (value : Value) (entries : List (Name × Value)) :
    (putEntry name value entries).lookup other =
      if other = name then some value else entries.lookup other := by
  induction entries with
  | nil => exact lookup_cons_eq_ite name other value []
  | cons entry rest inductionHypothesis =>
    obtain ⟨first, older⟩ := entry
    rw [putEntry, lookup_cons_eq_ite]
    by_cases here : first = name
    · rw [if_pos here, lookup_cons_eq_ite, here]
      split_ifs <;> rfl
    · rw [if_neg here, lookup_cons_eq_ite, inductionHypothesis]
      split_ifs with atFirst atName
      · exact absurd (atFirst.symm.trans atName) here
      all_goals rfl

theorem putEntry_of_fresh {name : Name} {value : Value} {entries : List (Name × Value)}
    (fresh : name ∉ entries.map Prod.fst) :
    putEntry name value entries = entries ++ [(name, value)] := by
  induction entries with
  | nil => rfl
  | cons entry rest inductionHypothesis =>
    rw [List.map_cons, List.mem_cons, not_or] at fresh
    rw [putEntry, if_neg (Ne.symm fresh.1), inductionHypothesis fresh.2, List.cons_append]

/-- New names come at the end, in their order. -/
theorem foldl_putEntry_of_fresh (pairs entries : List (Name × Value))
    (distinct : ((entries ++ pairs).map Prod.fst).Nodup) :
    pairs.foldl (fun entries pair => putEntry pair.1 pair.2 entries) entries =
      entries ++ pairs := by
  induction pairs generalizing entries with
  | nil => rw [List.foldl_nil, List.append_nil]
  | cons pair rest inductionHypothesis =>
    have fresh : pair.1 ∉ entries.map Prod.fst := fun member => by
      rw [List.map_append, List.map_cons] at distinct
      exact (List.nodup_append.mp distinct).2.2 _ member _ List.mem_cons_self rfl
    rw [List.append_cons] at distinct ⊢
    rw [List.foldl_cons, putEntry_of_fresh fresh]
    exact inductionHypothesis _ distinct

/-- Under distinct names, a value takes the place of the older one. -/
theorem putEntry_eq_set {name : Name} {old value : Value} {entries : List (Name × Value)}
    {position : Nat} (distinct : (entries.map Prod.fst).Nodup)
    (present : entries[position]? = some (name, old)) :
    putEntry name value entries = entries.set position (name, value) := by
  induction entries generalizing position with
  | nil => cases present
  | cons entry rest inductionHypothesis =>
    rw [List.map_cons, List.nodup_cons] at distinct
    cases position with
    | zero =>
      obtain rfl := Option.some.inj present
      exact if_pos rfl
    | succ position =>
      rw [List.getElem?_cons_succ] at present
      have apart : entry.1 ≠ name := fun same =>
        distinct.1 (same ▸ List.mem_map_of_mem (List.mem_of_getElem? present))
      rw [putEntry, if_neg apart, inductionHypothesis distinct.2 present, List.set_cons_succ]

end

namespace Table

variable {Value : Type}

/-! ### Looking up -/

/-- A value is found under its name, and nothing else is. -/
theorem find?_eq_some_iff {table : Table Value} {name : String} {value : Value} :
    table.find? name = some value ↔ (name, value) ∈ table.entries :=
  lookup_eq_some_iff_mem table.distinct

theorem lookup_map_pair {Element : Type} (nameOf : Element → String) (valueOf : Element → Value)
    (elements : List Element) (name : String) :
    (elements.map fun element => (nameOf element, valueOf element)).lookup name =
      (elements.find? fun element => nameOf element == name).map valueOf := by
  induction elements with
  | nil => rfl
  | cons element rest inductionHypothesis =>
    rw [List.map_cons, lookup_cons_eq_ite, inductionHypothesis]
    by_cases same : name = nameOf element
    · simp [same]
    · simp [same, Ne.symm same]

/-- A value that is put under a name is found there, and nothing else changes. -/
theorem find?_put (table : Table Value) (name other : String) (value : Value) :
    (table.put name value).find? other =
      if other = name then some value else table.find? other :=
  lookup_putEntry name other value table.entries

theorem isSome_find?_iff {table : Table Value} {name : String} :
    (table.find? name).isSome = true ↔ name ∈ table.names := by
  rw [Option.isSome_iff_exists, names, List.mem_map]
  simp only [find?_eq_some_iff]
  constructor
  · rintro ⟨value, member⟩
    exact ⟨_, member, rfl⟩
  · rintro ⟨entry, member, rfl⟩
    exact ⟨entry.2, member⟩

/-- The values stand in the order of their names. -/
theorem map_find?_names (table : Table Value) :
    table.names.map table.find? = table.values.map some := by
  rw [names, values, List.map_map, List.map_map]
  exact List.map_congr_left fun entry member => find?_eq_some_iff.mpr member

/-! ### Putting in -/

theorem entries_foldl_put (pairs : List (String × Value)) (table : Table Value) :
    (pairs.foldl (fun table pair => table.put pair.1 pair.2) table).entries =
      pairs.foldl (fun entries pair => putEntry pair.1 pair.2 entries) table.entries :=
  (List.foldl_hom Table.entries fun _ _ => rfl).symm

/-- Pairs with distinct names are the entries of their table. -/
theorem entries_ofList {pairs : List (String × Value)} (distinct : (pairs.map Prod.fst).Nodup) :
    (ofList pairs).entries = pairs := by
  rw [ofList, entries_foldl_put]
  exact foldl_putEntry_of_fresh pairs [] distinct

theorem ofList_concat (pairs : List (String × Value)) (pair : String × Value) :
    ofList (pairs ++ [pair]) = (ofList pairs).put pair.1 pair.2 :=
  List.foldl_concat _ _ _ _

/-- Under a name there is the last value that was put there. -/
theorem find?_ofList (pairs : List (String × Value)) (name : String) :
    (ofList pairs).find? name = pairs.reverse.lookup name := by
  induction pairs using List.reverseRecOn with
  | nil => rfl
  | append_singleton pairs pair inductionHypothesis =>
    rw [ofList_concat, find?_put, inductionHypothesis, List.reverse_concat, lookup_cons_eq_ite]

theorem mem_names_ofList {pairs : List (String × Value)} {name : String} :
    name ∈ (ofList pairs).names ↔ name ∈ pairs.map Prod.fst := by
  rw [← isSome_find?_iff, find?_ofList, List.lookup_isSome_iff, List.mem_map]
  simp only [beq_iff_eq, @eq_comm _ name, List.mem_reverse]

theorem names_ofList_subperm (pairs : List (String × Value)) :
    (ofList pairs).names.Subperm (pairs.map Prod.fst) :=
  List.subperm_of_subset (ofList pairs).distinct fun _ => mem_names_ofList.mp

theorem size_ofList_le (pairs : List (String × Value)) : (ofList pairs).size ≤ pairs.length := by
  simpa [names, size] using (names_ofList_subperm pairs).length_le

/-- There is an entry for every pair exactly if no name is there twice. -/
theorem size_ofList_eq_iff {pairs : List (String × Value)} :
    (ofList pairs).size = pairs.length ↔ (pairs.map Prod.fst).Nodup := by
  constructor
  · intro all
    have enough : (pairs.map Prod.fst).length ≤ (ofList pairs).names.length := by
      simp only [names, List.length_map]
      exact Nat.le_of_eq all.symm
    exact ((names_ofList_subperm pairs).perm_of_length_le enough).nodup_iff.mp
      (ofList pairs).distinct
  · intro distinct
    rw [size, entries_ofList distinct]

/-! ### Offering -/

theorem offer_of_known {table : Table Value} {name : String} (value : Value)
    (known : name ∈ table.names) : table.offer name value = table :=
  if_pos (isSome_find?_iff.mpr known)

theorem offer_of_fresh {table : Table Value} {name : String} (value : Value)
    (fresh : name ∉ table.names) : table.offer name value = table.put name value :=
  if_neg fun known => fresh (isSome_find?_iff.mp known)

theorem names_offer_of_fresh {table : Table Value} {name : String} (value : Value)
    (fresh : name ∉ table.names) : (table.offer name value).names = table.names ++ [name] := by
  rw [offer_of_fresh value fresh]
  show (putEntry name value table.entries).map Prod.fst = _
  rw [putEntry_of_fresh fresh, List.map_append]
  rfl

/-- A value that is offered is found where there was none, and nothing else changes. -/
theorem find?_offer (table : Table Value) (name other : String) (value : Value) :
    (table.offer name value).find? other =
      (table.find? other).or (if other = name then some value else none) := by
  by_cases known : name ∈ table.names
  · rw [offer_of_known value known]
    split_ifs with same
    · obtain ⟨older, found⟩ := Option.isSome_iff_exists.mp (isSome_find?_iff.mpr known)
      rw [same, found, Option.some_or]
    · rw [Option.or_none]
  · rw [offer_of_fresh value known, find?_put]
    split_ifs with same
    · have missing : table.find? name = none :=
        Option.not_isSome_iff_eq_none.mp fun found => known (isSome_find?_iff.mp found)
      rw [same, missing, Option.none_or]
    · rw [Option.or_none]

theorem ofFirsts_concat (pairs : List (String × Value)) (pair : String × Value) :
    ofFirsts (pairs ++ [pair]) = (ofFirsts pairs).offer pair.1 pair.2 :=
  List.foldl_concat _ _ _ _

/-- Under a name there is the first value that was offered there. -/
theorem find?_ofFirsts (pairs : List (String × Value)) (name : String) :
    (ofFirsts pairs).find? name = pairs.lookup name := by
  induction pairs using List.reverseRecOn with
  | nil => rfl
  | append_singleton pairs pair inductionHypothesis =>
    rw [ofFirsts_concat, find?_offer, inductionHypothesis, List.lookup_append,
      lookup_cons_eq_ite]
    rfl

theorem mem_names_ofFirsts {pairs : List (String × Value)} {name : String} :
    name ∈ (ofFirsts pairs).names ↔ name ∈ pairs.map Prod.fst := by
  rw [← isSome_find?_iff, find?_ofFirsts, List.lookup_isSome_iff, List.mem_map]
  simp only [beq_iff_eq, @eq_comm _ name]

/-- Of two names that were offered, the one that came first stands first. -/
theorem pairwise_names_ofFirsts (pairs : List (String × Value)) :
    (ofFirsts pairs).names.Pairwise fun first second => ∃ before after,
      pairs = before ++ after ∧ first ∈ before.map Prod.fst ∧ second ∉ before.map Prod.fst := by
  induction pairs using List.reverseRecOn with
  | nil => exact List.Pairwise.nil
  | append_singleton pairs pair inductionHypothesis =>
    have earlier : (ofFirsts pairs).names.Pairwise fun first second => ∃ before after,
        pairs ++ [pair] = before ++ after ∧ first ∈ before.map Prod.fst ∧
          second ∉ before.map Prod.fst := by
      refine inductionHypothesis.imp fun {first second} apart => ?_
      obtain ⟨before, after, rfl, known, unknown⟩ := apart
      exact ⟨before, after ++ [pair], List.append_assoc _ _ _, known, unknown⟩
    rw [ofFirsts_concat]
    by_cases known : pair.1 ∈ (ofFirsts pairs).names
    · rw [offer_of_known _ known]
      exact earlier
    · rw [names_offer_of_fresh _ known]
      refine List.pairwise_append.mpr ⟨earlier, List.pairwise_singleton _ _,
        fun first member second last => ?_⟩
      rw [List.mem_singleton.mp last]
      exact ⟨pairs, [pair], rfl, mem_names_ofFirsts.mp member, fun offered =>
        known (mem_names_ofFirsts.mpr offered)⟩

end Table

end Holdout
