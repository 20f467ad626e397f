/-
This file defines tables: values under distinct names, in the order in which the names came. A
value that is put under a name that is there already takes the place of the old one, so a name
keeps its place; a value that is only offered leaves the old one where it is. The names of a table
are distinct by construction.
-/

namespace Holdout

section

variable {Name Value : Type} [DecidableEq Name]

/-- Puts a value under a name: in the place of an older value, or at the end. Names can be of any
type. -/
def putEntry (name : Name) (value : Value) : List (Name × Value) → List (Name × Value)
  | [] => [(name, value)]
  | entry :: rest =>
    if entry.1 = name then (name, value) :: rest else entry :: putEntry name value rest

theorem fst_mem_putEntry {name other : Name} {value : Value} {entries : List (Name × Value)}
    (member : other ∈ (putEntry name value entries).map Prod.fst) :
    other = name ∨ other ∈ entries.map Prod.fst := by
  induction entries with
  | nil => simpa [putEntry] using member
  | cons entry rest inductionHypothesis =>
    by_cases same : entry.1 = name
    · simp only [putEntry, same, if_true, List.map_cons, List.mem_cons] at member ⊢
      rcases member with here | later
      · exact Or.inl here
      · exact Or.inr (Or.inr later)
    · simp only [putEntry, same, if_false, List.map_cons, List.mem_cons] at member ⊢
      rcases member with here | later
      · exact Or.inr (Or.inl here)
      · exact (inductionHypothesis later).imp id Or.inr

theorem nodup_putEntry (name : Name) (value : Value) (entries : List (Name × Value))
    (distinct : (entries.map Prod.fst).Nodup) :
    ((putEntry name value entries).map Prod.fst).Nodup := by
  induction entries with
  | nil => simp [putEntry]
  | cons entry rest inductionHypothesis =>
    rw [List.map_cons, List.nodup_cons] at distinct
    by_cases same : entry.1 = name
    · simp only [putEntry, same, if_true, List.map_cons, List.nodup_cons]
      exact ⟨same ▸ distinct.1, distinct.2⟩
    · simp only [putEntry, same, if_false, List.map_cons, List.nodup_cons]
      refine ⟨fun member => ?_, inductionHypothesis distinct.2⟩
      rcases fst_mem_putEntry member with here | later
      · exact same here
      · exact distinct.1 later

end

/-- Values under distinct names, in a fixed order. -/
structure Table (Value : Type) where
  entries : List (String × Value)
  distinct : (entries.map Prod.fst).Nodup

namespace Table

variable {Value : Type}

/-- The table without entries. -/
def empty : Table Value := ⟨[], List.nodup_nil⟩

instance : Inhabited (Table Value) := ⟨empty⟩

/-- The table with one more value, or with another value under a name it has. -/
def put (table : Table Value) (name : String) (value : Value) : Table Value :=
  ⟨putEntry name value table.entries, nodup_putEntry name value table.entries table.distinct⟩

/-- The table that the pairs give when they are put in one after the other. -/
def ofList (pairs : List (String × Value)) : Table Value :=
  pairs.foldl (fun table pair => table.put pair.1 pair.2) empty

/-- The value under a name. -/
def find? (table : Table Value) (name : String) : Option Value := table.entries.lookup name

/-- The table with a value under a name that has none. Where there is a value, it stays. -/
def offer (table : Table Value) (name : String) (value : Value) : Table Value :=
  if (table.find? name).isSome then table else table.put name value

/-- The table that the pairs give when they are offered one after the other, so that every name has
the first of its values. -/
def ofFirsts (pairs : List (String × Value)) : Table Value :=
  pairs.foldl (fun table pair => table.offer pair.1 pair.2) empty

/-- The names, in order. -/
def names (table : Table Value) : List String := table.entries.map Prod.fst

/-- The values, in the order of their names. -/
def values (table : Table Value) : List Value := table.entries.map Prod.snd

/-- The number of entries. -/
def size (table : Table Value) : Nat := table.entries.length

/-- Another value under every name. -/
def map {Other : Type} (change : Value → Other) (table : Table Value) : Table Other where
  entries := table.entries.map fun entry => (entry.1, change entry.2)
  distinct := by
    have sameNames : (table.entries.map fun entry => (entry.1, change entry.2)).map Prod.fst =
        table.entries.map Prod.fst := by simp [List.map_map, Function.comp_def]
    rw [sameNames]
    exact table.distinct

end Table

end Holdout
