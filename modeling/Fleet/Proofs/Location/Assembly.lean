import Fleet.Proofs.Location.Lineage

/-!
# Registries that can be built

A registry can be built from a list of locations exactly when none of them owns itself, no two of
them share a name, and every owner that they name is among them. It then holds the listed locations,
each under its own name, and lists them by name, so the order in which they were given is forgotten.
-/

namespace Fleet

/-- Locations from which a registry can be built. -/
structure WellOwned (locations : List Location) : Prop where
  notOwn : ∀ location ∈ locations, location.parent ≠ some location.id
  distinct : (locations.map Location.id).Nodup
  owned : ∀ location ∈ locations, ∀ owner, location.parent = some owner →
    owner ∈ locations.map Location.id

theorem WellOwned.perm
    {locations others : List Location}
    (wellOwned : WellOwned locations)
    (reordered : others.Perm locations) :
    WellOwned others where
  notOwn location listed := wellOwned.notOwn location (reordered.mem_iff.1 listed)
  distinct := (reordered.map Location.id).nodup_iff.2 wellOwned.distinct
  owned location listed owner named :=
    (reordered.map Location.id).mem_iff.2
      (wellOwned.owned location (reordered.mem_iff.1 listed) owner named)

namespace Registry

variable {registry reached : Registry} {locations : List Location}

/-- The locations with the names under which they stand. -/
def entriesOf (locations : List Location) : List (String × Location) :=
  locations.map fun location => (location.id, location)

@[simp]
theorem map_fst_entriesOf (locations : List Location) :
    (entriesOf locations).map Prod.fst = locations.map Location.id := by
  simp [entriesOf]

@[simp]
theorem map_snd_entriesOf (locations : List Location) :
    (entriesOf locations).map Prod.snd = locations := by
  rw [entriesOf, List.map_map]
  exact List.map_id' locations

/-- The registry that holds each location of a list under its name. -/
def holding (locations : List Location) : Registry :=
  ⟨Table.ofList (entriesOf locations)⟩

/-! ## Adding locations -/

theorem add_eq_ok_iff {location : Location} :
    registry.add location = .ok reached ↔
      location.parent ≠ some location.id ∧ registry.get? location.id = none ∧
        reached = ⟨registry.locations.insert location.id location⟩ := by
  rw [add, Table.contains, ← get?]
  cases registry.get? location.id <;> by_cases own : location.parent = some location.id <;>
    simp [own, eq_comm]

/-- Locations are added as long as none of them owns itself and each name is new. -/
theorem foldlM_add_eq_ok_iff :
    locations.foldlM add registry = .ok reached ↔
      (∀ location ∈ locations, location.parent ≠ some location.id) ∧
      (locations.map Location.id).Nodup ∧
      (∀ location ∈ locations, registry.get? location.id = none) ∧
      reached = ⟨(entriesOf locations).foldl
        (fun table entry => table.insert entry.1 entry.2) registry.locations⟩ := by
  induction locations generalizing registry with
  | nil => simp [entriesOf, pure, Except.pure, eq_comm]
  | cons location rest inductionHypothesis =>
    rw [List.foldlM_cons]
    constructor
    · intro folded
      obtain ⟨extended, added, further⟩ := Results.exists_of_bind_eq_ok folded
      obtain ⟨notOwn, free, rfl⟩ := add_eq_ok_iff.1 added
      obtain ⟨restNotOwn, distinct, restFree, rfl⟩ := inductionHypothesis.1 further
      have apart : ∀ other ∈ rest,
        location.id ≠ other.id ∧ registry.get? other.id = none := by
        intro other listed
        have vacant := restFree other listed
        rw [get?, Table.find?_insert] at vacant
        split at vacant
        · cases vacant
        · exact ⟨‹_›, vacant⟩
      refine ⟨List.forall_mem_cons.2 ⟨notOwn, restNotOwn⟩,
        List.nodup_cons.2 ⟨?_, distinct⟩,
        List.forall_mem_cons.2 ⟨free, fun other listed => (apart other listed).2⟩, rfl⟩
      intro repeated
      obtain ⟨other, listed, same⟩ := List.mem_map.1 repeated
      exact (apart other listed).1 same.symm
    · rintro ⟨notOwn, distinct, free, rfl⟩
      obtain ⟨firstNotOwn, restNotOwn⟩ := List.forall_mem_cons.1 notOwn
      obtain ⟨firstFree, restFree⟩ := List.forall_mem_cons.1 free
      obtain ⟨unrepeated, restDistinct⟩ := List.nodup_cons.1 distinct
      rw [add_eq_ok_iff.2 ⟨firstNotOwn, firstFree, rfl⟩]
      refine inductionHypothesis.2 ⟨restNotOwn, restDistinct, fun other listed => ?_, rfl⟩
      rw [get?, Table.find?_insert_of_ne]
      · exact restFree other listed
      · intro same
        exact unrepeated (same ▸ List.mem_map_of_mem listed)

/-- The first location that owns itself ends the list. -/
theorem ofList_of_selfParent
    {before after : List Location}
    {location : Location}
    (added : before.foldlM add empty = .ok reached)
    (own : location.parent = some location.id) :
    ofList (before ++ location :: after) = .error (.selfParent location.id) := by
  have refused : reached.add location = .error (.selfParent location.id) := if_pos own
  have folded : (before ++ location :: after).foldlM add empty =
      .error (.selfParent location.id) := by
    rw [List.foldlM_append, added]
    show ((location :: after).foldlM add reached) = _
    rw [List.foldlM_cons, refused]
    rfl
  rw [ofList, folded]
  rfl

/-! ## What a registry holds -/

theorem toList_holding_perm (distinct : (locations.map Location.id).Nodup) :
    (holding locations).toList.Perm locations := by
  have listed : (Table.ofList (entriesOf locations)).entries.Perm (entriesOf locations) :=
    Table.entries_ofList_perm (by simpa using distinct)
  have values := listed.map Prod.snd
  rwa [map_snd_entriesOf] at values

theorem get?_holding
    (distinct : (locations.map Location.id).Nodup)
    {location : Location}
    (listed : location ∈ locations) :
    (holding locations).get? location.id = some location :=
  Table.find?_ofList (by simpa using distinct) (List.mem_map_of_mem listed)

theorem holding_eq_of_perm
    (distinct : (locations.map Location.id).Nodup)
    {others : List Location}
    (reordered : others.Perm locations) :
    holding others = holding locations :=
  congrArg Registry.mk (Table.ofList_eq_of_perm (by simpa using distinct) (reordered.map _))

/-- Locations that stand under their names are listed by name. -/
theorem Named.ascending (named : registry.Named) :
    registry.toList.Pairwise fun first second => first.id < second.id := by
  refine List.pairwise_map.2 (registry.locations.ascending.imp_of_mem ?_)
  intro first second inFirst inSecond below
  have nameOf : ∀ entry ∈ registry.locations.entries, entry.2.id = entry.1 :=
    fun entry listed =>
    named entry.1 entry.2 ((Table.find?_eq_some_iff _ _ _).2 listed)
  rwa [nameOf first inFirst, nameOf second inSecond]

/-! ## Owners among the locations -/

/-- An owner that is named is found, or the location that names it is reported. -/
theorem owner_eq_ok_iff
    {location : Location}
    {found : Option Location} :
    registry.owner location = .ok found ↔
      (location.parent = none ∧ found = none) ∨
        ∃ id owner, location.parent = some id ∧ registry.get? id = some owner ∧
          found = some owner := by
  rw [owner]
  split
  · rename_i ownerless
    simp [ownerless, eq_comm]
  · rename_i id named
    split
    · rename_i owner holds
      simp [named, holds, eq_comm]
    · rename_i missing
      simp [named, missing]

/-- Among well owned locations every owner that is named is found. -/
theorem exists_owner_holding
    (wellOwned : WellOwned locations)
    {location : Location}
    (listed : location ∈ locations) :
    ∃ found, (holding locations).owner location = .ok found := by
  cases parent : location.parent with
  | none => exact ⟨none, owner_eq_none parent⟩
  | some id =>
    obtain ⟨owner, listedOwner, rfl⟩ :=
      List.mem_map.1 (wellOwned.owned location listed id parent)
    have holds := get?_holding wellOwned.distinct listedOwner
    exact ⟨some owner, owner_eq_ok_iff.2 (Or.inr ⟨_, owner, parent, holds, rfl⟩)⟩

/-- A registry can be built from a list of locations exactly when they are well owned, and it holds
them. -/
theorem ofList_eq_ok_iff :
    ofList locations = .ok registry ↔ WellOwned locations ∧ registry = holding locations := by
  constructor
  · intro built
    obtain ⟨reached, folded, onwards⟩ := Results.exists_of_bind_eq_ok built
    obtain ⟨_, checked, ended⟩ := Results.exists_of_bind_eq_ok onwards
    cases ended
    obtain ⟨notOwn, distinct, -, rfl⟩ := foldlM_add_eq_ok_iff.1 folded
    refine ⟨⟨notOwn, distinct, fun location listed id named => ?_⟩, rfl⟩
    have known := (toList_holding_perm distinct).mem_iff.2 listed
    obtain ⟨found, owned, -⟩ :=
      Results.exists_of_bind_eq_ok (Results.eq_ok_of_forM checked location known)
    rcases owner_eq_ok_iff.1 owned with ⟨ownerless, -⟩ | ⟨other, owner, same, holds, -⟩
    · rw [ownerless] at named
      cases named
    · rw [named] at same
      cases same
      rw [← map_fst_entriesOf]
      exact (Table.mem_keys_ofList_iff _ _).1 ((Table.mem_keys_iff _ _).2 ⟨owner, holds⟩)
  · rintro ⟨wellOwned, rfl⟩
    have folded : locations.foldlM add empty = .ok (holding locations) :=
      foldlM_add_eq_ok_iff.2 ⟨wellOwned.notOwn, wellOwned.distinct, fun _ _ => rfl, rfl⟩
    rw [ofList, folded]
    have checked : (holding locations).toList.forM
        (fun location => discard ((holding locations).owner location)) = .ok () := by
      apply Results.forM_eq_ok
      intro location known
      have listed := (toList_holding_perm wellOwned.distinct).mem_iff.1 known
      obtain ⟨found, owned⟩ := exists_owner_holding wellOwned listed
      rw [owned]
      rfl
    exact congrArg (fun outcome => outcome >>= fun _ => pure (holding locations)) checked

end Registry

end Fleet
