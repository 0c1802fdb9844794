import Fleet.Location.Registry
import Fleet.Proofs.Table
import Fleet.Results

/-!
# Registered locations

Everything that a walk through a registry meets is registered. In a registry that was built from a
list of locations, each of them stands under its own name, so a location above another one is found
by its name.

In a registry that passes its validation every walk along owners ends, so whether a registered
location lies below another one is always answered. A location lies below the one that owns it.
-/

namespace Fleet.Registry

variable {registry : Registry}

theorem mem_toList_iff (location : Location) :
    location ∈ registry.toList ↔ ∃ id, registry.get? id = some location :=
  Table.mem_values_iff registry.locations location

/-! ## The order of search -/

theorem mem_ofScope_iff
    (scope : Scope)
    (location : Location) :
    location ∈ registry.ofScope scope ↔
      location ∈ registry.toList ∧ location.scope = scope := by
  simp [ofScope]

/-- Only hosts are passed over when a default is looked for. -/
theorem defaultLocation_eq_none_iff :
    registry.defaultLocation = none ↔
      ∀ location ∈ registry.toList, location.scope = .host := by
  have empty : ∀ scope, (registry.ofScope scope).head? = none ↔
      ∀ location ∈ registry.toList, location.scope ≠ scope := by
    intro scope
    simp only [List.head?_eq_none_iff, List.eq_nil_iff_forall_not_mem, mem_ofScope_iff, not_and]
  simp only [defaultLocation, List.findSome?_eq_none_iff, empty, List.forall_mem_cons,
    List.not_mem_nil, false_implies, implies_true, and_true]
  constructor
  · rintro ⟨noZone, noRegion, noProvider⟩ location registered
    have zone := noZone location registered
    have region := noRegion location registered
    have provider := noProvider location registered
    cases scope : location.scope <;> simp_all
  · intro hosts
    refine ⟨?_, ?_, ?_⟩ <;>
      · intro location registered
        simp [hosts location registered]

/-- The search starts with the default location. -/
theorem searchOrder_eq_cons
    {preferred : Location}
    (default : registry.defaultLocation = some preferred) :
    ∃ rest, registry.searchOrder = preferred :: rest := by
  simp only [searchOrder, default]
  exact ⟨_, rfl⟩

theorem mem_toList_of_defaultLocation
    {preferred : Location}
    (default : registry.defaultLocation = some preferred) :
    preferred ∈ registry.toList := by
  obtain ⟨scope, _, found⟩ := List.exists_of_findSome?_eq_some default
  exact ((mem_ofScope_iff scope preferred).1 (List.mem_of_head? found)).1

/-- Only registered locations are searched. -/
theorem mem_toList_of_mem_searchOrder
    {location : Location}
    (searched : location ∈ registry.searchOrder) :
    location ∈ registry.toList := by
  simp only [searchOrder, List.mem_append, Option.mem_toList, List.mem_flatMap,
    List.mem_filter] at searched
  rcases searched with default | ⟨scope, _, ofScope, _⟩
  · exact mem_toList_of_defaultLocation default
  · exact ((mem_ofScope_iff scope location).1 ofScope).1

/-! ## Names -/

/-- Every location stands under its own name. -/
def Named (registry : Registry) : Prop :=
  ∀ id location, registry.get? id = some location → location.id = id

theorem Named.get?_id
    (named : registry.Named)
    {location : Location}
    (registered : location ∈ registry.toList) :
    registry.get? location.id = some location := by
  obtain ⟨id, found⟩ := (mem_toList_iff location).1 registered
  rwa [named id location found]

theorem named_empty : empty.Named := by
  intro id location found
  cases found

/-- Every location is still found under its name when another one has been added. -/
theorem Named.add
    {location : Location}
    {extended : Registry}
    (named : registry.Named)
    (added : registry.add location = .ok extended) :
    extended.Named := by
  simp only [Registry.add] at added
  split at added
  · cases added
  · split at added
    · cases added
    · cases added
      intro id found
      rw [get?, Table.find?_insert]
      split
      · rintro ⟨⟩
        assumption
      · exact named id found

/-- Adding locations one after the other keeps each under its own name. -/
theorem Named.foldlM_add
    {locations : List Location}
    {reached : Registry}
    (named : registry.Named)
    (folded : locations.foldlM Registry.add registry = .ok reached) :
    reached.Named := by
  induction locations generalizing registry with
  | nil =>
    cases folded
    exact named
  | cons location rest inductionHypothesis =>
    obtain ⟨extended, added, further⟩ := Results.exists_of_bind_eq_ok folded
    exact inductionHypothesis (named.add added) further

/-- A registry that is built from a list has every location under its own name. -/
theorem named_of_ofList
    {locations : List Location}
    (built : ofList locations = .ok registry) :
    registry.Named := by
  obtain ⟨reached, folded, checked⟩ := Results.exists_of_bind_eq_ok built
  obtain ⟨_, _, rest⟩ := Results.exists_of_bind_eq_ok checked
  cases rest
  exact named_empty.foldlM_add folded

/-! ## Locations above others -/

/-- The owner of a location is registered. -/
theorem registered_of_owner
    {location found : Location}
    (owned : registry.owner location = .ok (some found)) :
    found ∈ registry.toList := by
  rw [mem_toList_iff]
  simp only [owner] at owned
  split at owned
  · cases owned
  · rename_i id _
    split at owned
    · rename_i registered
      cases owned
      exact ⟨id, registered⟩
    · cases owned

/-- Whatever is met on the way up is registered. -/
theorem registered_of_climb
    {start : LocationId}
    {steps : Nat}
    {location above : Location}
    {chain : List Location}
    (climbed : registry.climb start steps location = .ok chain)
    (met : above ∈ chain) :
    above ∈ registry.toList := by
  induction steps generalizing location chain with
  | zero =>
    obtain ⟨owner, _, ended⟩ := Results.exists_of_bind_eq_ok climbed
    cases owner with
    | none => cases ended; cases met
    | some found => cases ended
  | succ steps inductionHypothesis =>
    obtain ⟨owner, owned, onwards⟩ := Results.exists_of_bind_eq_ok climbed
    cases owner with
    | none => cases onwards; cases met
    | some found =>
      dsimp only at onwards
      split at onwards
      · cases onwards
      · obtain ⟨rest, further, ended⟩ := Results.exists_of_bind_eq_ok onwards
        cases ended
        rcases List.mem_cons.1 met with rfl | later
        · exact registered_of_owner owned
        · exact inductionHypothesis further later

/-- Whatever a registered location lies at or below is registered under its name. -/
theorem Named.exists_of_isSameOrChild
    (named : registry.Named)
    {location : Location}
    (registered : location ∈ registry.toList)
    {expected : LocationId}
    (within : registry.isSameOrChild location.id expected = .ok true) :
    ∃ found, registry.get? expected = some found := by
  rw [isSameOrChild] at within
  split at within
  · rename_i same
    exact ⟨location, same ▸ named.get?_id registered⟩
  · obtain ⟨start, _, onwards⟩ := Results.exists_of_bind_eq_ok within
    obtain ⟨chain, climbed, ended⟩ := Results.exists_of_bind_eq_ok onwards
    obtain ⟨above, met, same⟩ := List.any_eq_true.1 (Except.ok.inj ended)
    have known : above ∈ registry.toList := registered_of_climb climbed met
    exact ⟨above, beq_iff_eq.1 same ▸ named.get?_id known⟩

/-! ## Validated registries -/

theorem checked_of_validate
    (valid : registry.validate = .ok ())
    {location : Location}
    (registered : location ∈ registry.toList) :
    (∃ root, registry.providerOf location = .ok root) ∧
      ∃ above, registry.ancestors location = .ok above := by
  have checked := Results.eq_ok_of_forM valid location registered
  obtain ⟨_, rooted, climbed⟩ := Results.exists_of_bind_eq_ok checked
  obtain ⟨root, resolved, _⟩ := Results.exists_of_bind_eq_ok rooted
  obtain ⟨above, ended, _⟩ := Results.exists_of_bind_eq_ok climbed
  exact ⟨⟨root, resolved⟩, above, ended⟩

/-- In a valid registry it can always be told whether a location lies within another one. -/
theorem isSameOrChild_eq_ok
    (named : registry.Named)
    (valid : registry.validate = .ok ())
    {location : Location}
    (registered : location ∈ registry.toList)
    (expected : LocationId) :
    ∃ inside, registry.isSameOrChild location.id expected = .ok inside := by
  obtain ⟨_, above, ended⟩ := checked_of_validate valid registered
  rw [isSameOrChild, require, named.get?_id registered]
  split
  · exact ⟨true, rfl⟩
  · refine ⟨above.any fun ancestor => ancestor.id == expected, ?_⟩
    show (registry.ancestors location).bind _ = _
    rw [ended]
    rfl

/-- A climb that ends starts with the owner. -/
theorem mem_of_climb
    {start : LocationId}
    {steps : Nat}
    {location found : Location}
    {chain : List Location}
    (climbed : registry.climb start steps location = .ok chain)
    (owned : registry.owner location = .ok (some found)) :
    found ∈ chain := by
  cases steps with
  | zero =>
    rw [climb, owned] at climbed
    cases climbed
  | succ steps =>
    rw [climb, owned] at climbed
    change (if found.id = start then _ else _) = _ at climbed
    split at climbed
    · cases climbed
    · obtain ⟨rest, _, ended⟩ := Results.exists_of_bind_eq_ok climbed
      cases ended
      exact List.mem_cons_self

/-- A location lies below its owner. -/
theorem isSameOrChild_of_parent
    (named : registry.Named)
    (valid : registry.validate = .ok ())
    {location owner : Location}
    (registered : location ∈ registry.toList)
    (known : owner ∈ registry.toList)
    (owned : location.parent = some owner.id) :
    registry.isSameOrChild location.id owner.id = .ok true := by
  obtain ⟨_, above, ended⟩ := checked_of_validate valid registered
  have owns : registry.owner location = .ok (some owner) := by
    simp only [Registry.owner, owned, named.get?_id known]
  have met : above.any (fun ancestor => ancestor.id == owner.id) = true :=
    List.any_eq_true.2 ⟨owner, mem_of_climb ended owns, beq_self_eq_true _⟩
  rw [isSameOrChild, require, named.get?_id registered]
  split
  · rfl
  · show (registry.ancestors location).bind _ = _
    rw [ended]
    exact congrArg Except.ok met

end Fleet.Registry
