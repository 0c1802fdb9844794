/-!
# Tables

A table holds at most one value for each key and lists its entries in ascending order of their keys.
The order of the keys is part of the type, so two tables are equal exactly when they give the same
answer for every key, whatever the order in which their entries were put in.
-/

namespace Fleet

/-- Values named by texts, in ascending order of their names. -/
structure Table (α : Type) where
  /-- The names with their values. -/
  entries : List (String × α)
  /-- Every name is smaller than the names after it. -/
  ascending : entries.Pairwise fun first second => first.1 < second.1

namespace Table

variable {α β : Type}

/-- The table without entries. -/
def empty : Table α := ⟨[], List.Pairwise.nil⟩

instance : Inhabited (Table α) := ⟨empty⟩

instance : EmptyCollection (Table α) := ⟨empty⟩

/-- Of two different names one is the smaller. -/
theorem lt_of_not_lt_of_ne
    {first second : String}
    (notBelow : ¬ second < first)
    (different : ¬ second = first) :
    first < second :=
  Decidable.byContradiction fun notAbove =>
    different (String.le_antisymm (String.not_lt.1 notAbove) (String.not_lt.1 notBelow))

/-- Entries in ascending order with one more entry, which replaces an entry of the same name. -/
def insertEntry (key : String) (value : α) : List (String × α) → List (String × α)
  | [] => [(key, value)]
  | entry :: rest =>
    if key < entry.1 then (key, value) :: entry :: rest
    else if key = entry.1 then (key, value) :: rest
    else entry :: insertEntry key value rest

/-- An insertion brings in no entry but the new one. -/
theorem fst_mem_of_mem_insertEntry
    {key : String}
    {value : α}
    {entries : List (String × α)}
    {entry : String × α}
    (member : entry ∈ insertEntry key value entries) :
    entry = (key, value) ∨ entry ∈ entries := by
  induction entries with
  | nil => simpa [insertEntry] using member
  | cons first rest inductionHypothesis =>
    simp only [insertEntry] at member
    split at member
    · simpa using member
    · split at member
      · rcases List.mem_cons.1 member with same | inRest
        · exact Or.inl same
        · exact Or.inr (List.mem_cons_of_mem _ inRest)
      · rcases List.mem_cons.1 member with same | inRest
        · exact Or.inr (same ▸ List.mem_cons_self)
        · exact (inductionHypothesis inRest).imp_right (List.mem_cons_of_mem _)

/-- Keys ascend also after an insertion. -/
theorem ascending_insertEntry
    (key : String)
    (value : α)
    {entries : List (String × α)}
    (ascending : entries.Pairwise fun first second => first.1 < second.1) :
    (insertEntry key value entries).Pairwise fun first second => first.1 < second.1 := by
  induction entries with
  | nil => simp [insertEntry]
  | cons first rest inductionHypothesis =>
    obtain ⟨above, restAscending⟩ := List.pairwise_cons.1 ascending
    simp only [insertEntry]
    split
    · rename_i below
      refine List.pairwise_cons.2 ⟨?_, ascending⟩
      intro entry member
      rcases List.mem_cons.1 member with rfl | inRest
      · exact below
      · exact String.lt_trans below (above entry inRest)
    · split
      · rename_i same
        exact List.pairwise_cons.2 ⟨fun entry member =>
          same ▸ above entry member, restAscending⟩
      · rename_i notBelow different
        refine List.pairwise_cons.2 ⟨?_, inductionHypothesis restAscending⟩
        intro entry member
        rcases fst_mem_of_mem_insertEntry member with rfl | inRest
        · exact lt_of_not_lt_of_ne notBelow different
        · exact above entry inRest

/-- The table with one more entry, which replaces an entry of the same name. -/
def insert (table : Table α) (key : String) (value : α) : Table α :=
  ⟨insertEntry key value table.entries, ascending_insertEntry key value table.ascending⟩

/-- The value of the first entry with a name. -/
def lookup (key : String) : List (String × α) → Option α
  | [] => none
  | entry :: rest => if entry.1 = key then some entry.2 else lookup key rest

/-- The value under a name. -/
def find? (table : Table α) (key : String) : Option α :=
  lookup key table.entries

/-- Whether there is a value under a name. -/
def contains (table : Table α) (key : String) : Bool :=
  (table.find? key).isSome

/-- The names, in ascending order. -/
def keys (table : Table α) : List String :=
  table.entries.map Prod.fst

/-- The values, in ascending order of their names. -/
def values (table : Table α) : List α :=
  table.entries.map Prod.snd

/-- The number of entries. -/
def size (table : Table α) : Nat :=
  table.entries.length

/-- The table without an entry of a name. -/
def erase (table : Table α) (key : String) : Table α :=
  ⟨table.entries.filter fun entry => entry.1 != key, table.ascending.filter _⟩

/-- The table of a list of entries; of several entries of one name the last counts. -/
def ofList (entries : List (String × α)) : Table α :=
  entries.foldl (fun table entry => table.insert entry.1 entry.2) empty

/-- The entries of one table, with those of another one below them for the other names. -/
def above (upper lower : Table α) : Table α :=
  upper.entries.foldl (fun table entry => table.insert entry.1 entry.2) lower

theorem ext
    {left right : Table α}
    (same : left.entries = right.entries) :
    left = right := by
  cases left
  cases right
  simp_all

instance [DecidableEq α] : DecidableEq (Table α) := fun left right =>
  if same : left.entries = right.entries then
    isTrue (ext same)
  else
    isFalse fun equal => same (congrArg entries equal)

/-- An insertion is seen under its own key only. -/
theorem lookup_insertEntry
    (key other : String)
    (value : α)
    (entries : List (String × α)) :
    lookup other (insertEntry key value entries) =
      if key = other then some value else lookup other entries := by
  induction entries with
  | nil => simp [insertEntry, lookup]
  | cons first rest inductionHypothesis =>
    simp only [insertEntry]
    split
    · simp [lookup]
    · split
      · rename_i same
        simp only [lookup, same]
        split <;> simp_all
      · rename_i different
        simp only [lookup, inductionHypothesis]
        split
        · rename_i found
          simp [found ▸ different]
        · rfl

@[simp]
theorem find?_empty (key : String) : (empty : Table α).find? key = none := rfl

/-- After an entry has been put in, its name finds it and every other name finds what it found. -/
theorem find?_insert
    (table : Table α)
    (key other : String)
    (value : α) :
    (table.insert key value).find? other = if key = other then some value else table.find? other :=
  lookup_insertEntry key other value table.entries

@[simp]
theorem find?_insert_self
    (table : Table α)
    (key : String)
    (value : α) :
    (table.insert key value).find? key = some value := by
  simp [find?_insert]

theorem find?_insert_of_ne
    (table : Table α)
    {key other : String}
    (value : α)
    (different : key ≠ other) :
    (table.insert key value).find? other = table.find? other := by
  simp [find?_insert, different]

/-- After an entry has been taken out, its name finds nothing and every other name what it found. -/
theorem find?_erase
    (table : Table α)
    (key other : String) :
    (table.erase key).find? other = if key = other then none else table.find? other := by
  obtain ⟨entries, ascending⟩ := table
  simp only [find?, erase]
  induction entries with
  | nil => simp [lookup]
  | cons first rest inductionHypothesis =>
    have later := inductionHypothesis (List.pairwise_cons.1 ascending).2
    by_cases erased : first.1 = key
    · rw [List.filter_cons_of_neg (by simpa using erased), later, lookup, erased]
      split <;> rfl
    · rw [List.filter_cons_of_pos (by simpa using erased), lookup, lookup, later]
      split
      · rename_i found
        rw [if_neg fun same => erased (found.trans same.symm)]
      · rfl

/-- A name finds a value exactly when the table lists the two as an entry. -/
theorem find?_eq_some_iff
    (table : Table α)
    (key : String)
    (value : α) :
    table.find? key = some value ↔ (key, value) ∈ table.entries := by
  obtain ⟨entries, ascending⟩ := table
  simp only [find?]
  induction entries with
  | nil => simp [lookup]
  | cons first rest inductionHypothesis =>
    obtain ⟨above, restAscending⟩ := List.pairwise_cons.1 ascending
    simp only [lookup, List.mem_cons]
    split
    · rename_i same
      constructor
      · intro found
        exact Or.inl (by cases first; simp_all)
      · rintro (equal | inRest)
        · simp [← equal]
        · exact absurd (above _ inRest) (by simp [same])
    · rename_i different
      rw [inductionHypothesis restAscending]
      constructor
      · exact Or.inr
      · rintro (equal | inRest)
        · exact absurd (congrArg Prod.fst equal).symm different
        · exact inRest

theorem lookup_eq_none
    {key : String}
    {entries : List (String × α)}
    (above : ∀ entry ∈ entries, key < entry.1) :
    lookup key entries = none := by
  induction entries with
  | nil => rfl
  | cons first rest inductionHypothesis =>
    have different : first.1 ≠ key := fun same =>
      String.lt_irrefl key (same ▸ above first List.mem_cons_self)
    simp [lookup, different,
      inductionHypothesis fun entry member => above entry (List.mem_cons_of_mem _ member)]

/-- A name finds its value in the upper table if it has one there, and in the lower table if not. -/
theorem find?_above
    (upper lower : Table α)
    (key : String) :
    (upper.above lower).find? key = (upper.find? key).or (lower.find? key) := by
  obtain ⟨entries, ascending⟩ := upper
  simp only [above]
  change _ = (lookup key entries).or (lower.find? key)
  induction entries generalizing lower with
  | nil => simp [lookup]
  | cons first rest inductionHypothesis =>
    obtain ⟨below, restAscending⟩ := List.pairwise_cons.1 ascending
    rw [List.foldl_cons, inductionHypothesis _ restAscending, find?_insert, lookup]
    split
    · rename_i same
      rw [lookup_eq_none (same ▸ below)]
      rfl
    · rfl

end Table

end Fleet
