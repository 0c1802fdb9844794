import Fleet.Table
import Mathlib.Data.List.Nodup
import Mathlib.Tactic.Tauto

/-!
# The keys and values of tables

A table lists its keys in strictly ascending order. This fixes the list: two tables, or a table and
a selection from another, that have the same keys list them in the same order. The values are what
the keys find.
-/

namespace Fleet.Table

variable {α : Type}

theorem keys_ascending (table : Table α) :
    table.keys.Pairwise fun first second => first < second :=
  List.pairwise_map.2 table.ascending

theorem nodup_of_ascending
    {names : List String}
    (ascending : names.Pairwise fun first second => first < second) :
    names.Nodup := by
  apply ascending.imp
  intro first second below same
  exact String.lt_irrefl second (same ▸ below)

theorem nodup_keys (table : Table α) : table.keys.Nodup :=
  nodup_of_ascending table.keys_ascending

/-- The keys are the names that find a value. -/
theorem mem_keys_iff
    (table : Table α)
    (key : String) :
    key ∈ table.keys ↔ ∃ value, table.find? key = some value := by
  simp only [keys, List.mem_map, find?_eq_some_iff]
  constructor
  · rintro ⟨⟨name, value⟩, member, rfl⟩
    exact ⟨value, member⟩
  · rintro ⟨value, member⟩
    exact ⟨(key, value), member, rfl⟩

/-- The values are what names find. -/
theorem mem_values_iff
    (table : Table α)
    (value : α) :
    value ∈ table.values ↔ ∃ key, table.find? key = some value := by
  simp only [values, List.mem_map, find?_eq_some_iff]
  constructor
  · rintro ⟨⟨name, held⟩, member, rfl⟩
    exact ⟨name, member⟩
  · rintro ⟨key, member⟩
    exact ⟨(key, value), member, rfl⟩

/-- Ascending keys with the same members form the same list. -/
theorem keys_eq_of_mem_iff
    (table : Table α)
    {names : List String}
    (ascending : names.Pairwise fun first second => first < second)
    (same : ∀ name, name ∈ table.keys ↔ name ∈ names) :
    table.keys = names := by
  have reordered : table.keys.Perm names :=
    (List.perm_ext_iff_of_nodup table.nodup_keys (nodup_of_ascending ascending)).2 same
  apply reordered.eq_of_pairwise _ table.keys_ascending ascending
  intro first second _ _ below above
  exact absurd (String.lt_trans below above) (String.lt_irrefl first)

theorem mem_keys_insert_iff
    (table : Table α)
    (key other : String)
    (value : α) :
    other ∈ (table.insert key value).keys ↔ other = key ∨ other ∈ table.keys := by
  simp only [mem_keys_iff, find?_insert]
  by_cases same : key = other
  · simp [same]
  · simp [same, Ne.symm same]

/-- The keys of a table made from a list of entries are the names in the list. -/
theorem mem_keys_ofList_iff
    (entries : List (String × α))
    (key : String) :
    key ∈ (ofList entries).keys ↔ key ∈ entries.map Prod.fst := by
  suffices general : ∀ table : Table α,
      key ∈ (entries.foldl (fun table entry => table.insert entry.1 entry.2) table).keys ↔
        key ∈ entries.map Prod.fst ∨ key ∈ table.keys by
    simpa [ofList, keys, empty] using general empty
  induction entries with
  | nil => simp
  | cons entry rest inductionHypothesis =>
    intro table
    rw [List.foldl_cons, inductionHypothesis, mem_keys_insert_iff, List.map_cons, List.mem_cons]
    tauto

/-- What is found in a table made from entries is one of them. -/
theorem mem_of_find?_ofList
    {entries : List (String × α)}
    {key : String}
    {value : α}
    (found : (ofList entries).find? key = some value) :
    (key, value) ∈ entries := by
  suffices general : ∀ table : Table α,
      (entries.foldl (fun table entry => table.insert entry.1 entry.2) table).find? key =
        some value → (key, value) ∈ entries ∨ table.find? key = some value by
    rcases general empty found with listed | known
    · exact listed
    · cases known
  clear found
  induction entries with
  | nil => exact fun table known => Or.inr known
  | cons entry rest inductionHypothesis =>
    intro table found
    rcases inductionHypothesis (table.insert entry.1 entry.2) found with listed | known
    · exact Or.inl (List.mem_cons_of_mem _ listed)
    · rw [find?_insert] at known
      split at known
      next same =>
        cases known
        exact Or.inl (same ▸ List.mem_cons_self)
      next => exact Or.inr known

/-- In a table made from entries of different names, every name finds its value. -/
theorem find?_ofList
    {entries : List (String × α)}
    (distinct : (entries.map Prod.fst).Nodup)
    {key : String}
    {value : α}
    (listed : (key, value) ∈ entries) :
    (ofList entries).find? key = some value := by
  suffices general : ∀ table : Table α,
      (key, value) ∈ entries ∨
        (key ∉ entries.map Prod.fst ∧ table.find? key = some value) →
        (entries.foldl (fun table entry => table.insert entry.1 entry.2) table).find? key =
          some value from general empty (Or.inl listed)
  clear listed
  induction entries with
  | nil => simp
  | cons entry rest inductionHypothesis =>
    obtain ⟨different, distinctRest⟩ := List.nodup_cons.1 distinct
    intro table known
    rw [List.foldl_cons]
    apply inductionHypothesis distinctRest
    rcases known with listed | ⟨unlisted, found⟩
    · rcases List.mem_cons.1 listed with rfl | inRest
      · exact Or.inr ⟨different, find?_insert_self table key value⟩
      · exact Or.inl inRest
    · simp only [List.map_cons, List.mem_cons, not_or] at unlisted
      exact Or.inr ⟨unlisted.2, by rw [find?_insert_of_ne _ _ (Ne.symm unlisted.1), found]⟩

/-- Tables with the same entries, in whatever order, are the same table. -/
theorem eq_of_perm
    {left right : Table α}
    (reordered : left.entries.Perm right.entries) :
    left = right := by
  apply ext
  apply reordered.eq_of_pairwise _ left.ascending right.ascending
  intro first second _ _ below above
  exact absurd (String.lt_trans below above) (String.lt_irrefl first.1)

/-- A table made from entries of different names lists just these entries. -/
theorem entries_ofList_perm
    {entries : List (String × α)}
    (distinct : (entries.map Prod.fst).Nodup) :
    (ofList entries).entries.Perm entries := by
  have nodupTable : (ofList entries).entries.Nodup := List.Nodup.of_map _ (nodup_keys _)
  refine (List.perm_ext_iff_of_nodup nodupTable (List.Nodup.of_map _ distinct)).2 ?_
  rintro ⟨key, value⟩
  rw [← find?_eq_some_iff]
  constructor
  · intro found
    obtain ⟨⟨name, listed⟩, member, rfl⟩ :=
      List.mem_map.1 ((mem_keys_ofList_iff entries key).1
        ((mem_keys_iff _ key).2 ⟨value, found⟩))
    rw [find?_ofList distinct member] at found
    cases found
    exact member
  · exact find?_ofList distinct

/-- The order in which entries of different names are put in does not matter. -/
theorem ofList_eq_of_perm
    {entries others : List (String × α)}
    (distinct : (entries.map Prod.fst).Nodup)
    (reordered : others.Perm entries) :
    ofList others = ofList entries := by
  have distinctOthers : (others.map Prod.fst).Nodup :=
    (reordered.map Prod.fst).nodup_iff.2 distinct
  exact eq_of_perm ((entries_ofList_perm distinctOthers).trans
    (reordered.trans (entries_ofList_perm distinct).symm))

/-- The entries of a table make the table. -/
theorem ofList_entries (table : Table α) : ofList table.entries = table :=
  eq_of_perm (entries_ofList_perm table.nodup_keys)

end Fleet.Table
