import Fleet.Proofs.Location.Assembly

/-!
# The order of search

The locations of a registry are tried tier by tier: zones, regions, providers, hosts, and by name
within a tier. The default location is put in front of them and left out where it would come by
itself. It would come first by itself, so this moves nothing: the search goes through every
registered location exactly once, in the order of tiers and names.
-/

namespace Fleet

/-- The turn of a tier in a search. -/
def Scope.turn : Scope → Nat
  | zone => 0
  | region => 1
  | provider => 2
  | host => 3

/-- A location is tried before another one: its tier has an earlier turn, or they are of one tier
and its name is smaller. -/
def Location.TriedBefore (first second : Location) : Prop :=
  first.scope.turn < second.scope.turn ∨ first.scope = second.scope ∧ first.id < second.id

theorem Location.TriedBefore.ne
    {first second : Location}
    (before : first.TriedBefore second) :
    first ≠ second := by
  rintro rfl
  rcases before with earlier | ⟨_, below⟩
  · exact Nat.lt_irrefl _ earlier
  · exact String.lt_irrefl _ below

namespace Registry

variable {registry : Registry}

/-- The tiers in which a default location is looked for. -/
def defaultScopes : List Scope := [.zone, .region, .provider]

/-- The tiers that are searched. -/
def searchScopes : List Scope := defaultScopes ++ [.host]

/-- The locations of some tiers, tier by tier and by name within a tier. -/
def tiers (registry : Registry) (scopes : List Scope) : List Location :=
  scopes.flatMap registry.ofScope

theorem mem_tiers_iff
    {scopes : List Scope}
    {location : Location} :
    location ∈ registry.tiers scopes ↔
      location ∈ registry.toList ∧ location.scope ∈ scopes := by
  simp only [tiers, List.mem_flatMap, mem_ofScope_iff]
  constructor
  · rintro ⟨scope, listed, registered, rfl⟩
    exact ⟨registered, listed⟩
  · rintro ⟨registered, listed⟩
    exact ⟨_, listed, registered, rfl⟩

theorem head?_tiers : (registry.tiers defaultScopes).head? = registry.defaultLocation :=
  List.head?_flatMap

/-- Tiers that are listed by their turns give the locations in the order of search. -/
theorem Named.pairwise_tiers
    (named : registry.Named)
    {scopes : List Scope}
    (inTurn : scopes.Pairwise fun first second => first.turn < second.turn) :
    (registry.tiers scopes).Pairwise Location.TriedBefore := by
  refine List.pairwise_flatMap.2 ⟨fun scope _ => ?_, inTurn.imp ?_⟩
  · refine (named.ascending.filter _).imp_of_mem fun {first second} inFirst inSecond below => ?_
    have firstTier := ((mem_ofScope_iff scope first).1 inFirst).2
    have secondTier := ((mem_ofScope_iff scope second).1 inSecond).2
    exact Or.inr ⟨firstTier.trans secondTier.symm, below⟩
  · intro earlier later turns first inFirst second inSecond
    rw [← ((mem_ofScope_iff earlier first).1 inFirst).2,
      ← ((mem_ofScope_iff later second).1 inSecond).2] at turns
    exact Or.inl turns

theorem Named.nodup_registered (named : registry.Named) :
    (registry.toList.map Location.id).Nodup :=
  Table.nodup_of_ascending (List.pairwise_map.2 named.ascending)

/-- All four tiers together list the registry. -/
theorem Named.tiers_perm (named : registry.Named) :
    (registry.tiers searchScopes).Perm registry.toList := by
  have inTurn : searchScopes.Pairwise
      fun first second => first.turn < second.turn := by decide
  have onceTried : (registry.tiers searchScopes).Nodup :=
    (named.pairwise_tiers inTurn).imp Location.TriedBefore.ne
  have onceListed : registry.toList.Nodup := .of_map _ named.nodup_registered
  refine (List.perm_ext_iff_of_nodup onceTried onceListed).2 fun location => ?_
  have anyTier : location.scope ∈ searchScopes := by
    cases location.scope <;> decide
  rw [mem_tiers_iff, and_iff_left anyTier]

/-- The default location is the first of all tiers, so taking it out and putting it in front leaves
the tiers as they are. -/
theorem Named.searchOrder_eq_tiers (named : registry.Named) :
    registry.searchOrder = registry.tiers searchScopes := by
  have shape : registry.searchOrder = registry.defaultLocation.toList ++
      (registry.tiers searchScopes).filter fun location =>
        registry.defaultLocation.all fun first => first.id != location.id := by
    rw [tiers, List.filter_flatMap]
    rfl
  have parted : registry.tiers searchScopes =
      registry.tiers defaultScopes ++ registry.ofScope .host := by
    rw [tiers, searchScopes, List.flatMap_append, List.flatMap_singleton]
    rfl
  have distinct : ((registry.tiers searchScopes).map Location.id).Nodup :=
    (named.tiers_perm.map Location.id).nodup_iff.2 named.nodup_registered
  rw [shape]
  cases looked : registry.tiers defaultScopes with
  | nil =>
    rw [← head?_tiers, looked]
    exact List.filter_eq_self.2 fun _ _ => rfl
  | cons preferred rest =>
    rw [looked, List.cons_append] at parted
    rw [parted, List.map_cons, List.nodup_cons] at distinct
    rw [← head?_tiers, looked, parted, List.head?_cons]
    have others : (rest ++ registry.ofScope .host).filter
        (fun location => preferred.id != location.id) = rest ++ registry.ofScope .host := by
      refine List.filter_eq_self.2 fun location later => bne_iff_ne.2 fun same => ?_
      exact distinct.1 (same ▸ List.mem_map_of_mem later)
    simp [others]

/-- The search in a registry that is built from a list goes through the listed locations, each of
them once, by tiers and within a tier by names. Unless there are only hosts, it begins with the
default location; of hosts none is the default. -/
theorem searchOrder_is_sorted_listing
    {locations : List Location}
    (built : ofList locations = .ok registry) :
    registry.searchOrder.Perm registry.toList ∧
    registry.searchOrder.Perm locations ∧
    (registry.searchOrder.map Location.id).Nodup ∧
    registry.searchOrder.Pairwise Location.TriedBefore ∧
    ((∃ location ∈ registry.toList, location.scope ≠ .host) →
      ∃ preferred, registry.defaultLocation = some preferred ∧
        registry.searchOrder.head? = some preferred) ∧
    ((∀ location ∈ registry.toList, location.scope = .host) →
      registry.defaultLocation = none) := by
  obtain ⟨wellOwned, rfl⟩ := ofList_eq_ok_iff.1 built
  have named := named_of_ofList built
  have listing := named.tiers_perm
  have original := listing.trans (toList_holding_perm wellOwned.distinct)
  rw [named.searchOrder_eq_tiers]
  refine ⟨listing, original, (original.map Location.id).nodup_iff.2 wellOwned.distinct,
    named.pairwise_tiers (by decide), ?_, defaultLocation_eq_none_iff.2⟩
  rintro ⟨location, registered, noHost⟩
  cases default : (holding locations).defaultLocation with
  | none => exact absurd (defaultLocation_eq_none_iff.1 default location registered) noHost
  | some preferred =>
    obtain ⟨rest, search⟩ := searchOrder_eq_cons default
    rw [← named.searchOrder_eq_tiers, search]
    exact ⟨preferred, rfl, rfl⟩

/-- Two zones at different depths, their hosts, a region and a provider, in no order. -/
def scatteredPlaces : List Location :=
  let provider := Location.root "scaleway" ""
  let region := Location.childOf provider "fr-par" .region ""
  let zone := Location.childOf region "fr-par-1" .zone ""
  let edge := Location.childOf provider "edge-1" .zone ""
  [Location.childOf edge "host-b" .host "", provider, zone, Location.childOf zone "host-a" .host "",
    edge, region]

/-- The search begins with the zone at the edge, which has the smallest name of the two. -/
theorem scattered_places_are_tried_in_turn :
    ∃ registry, ofList scatteredPlaces = .ok registry ∧
      registry.searchOrder.Perm scatteredPlaces ∧
      registry.searchOrder.Pairwise Location.TriedBefore ∧
      ∃ preferred, registry.defaultLocation = some preferred ∧ preferred.id = "edge-1" ∧
        registry.searchOrder.head? = some preferred := by
  obtain ⟨registry, built, located, first⟩ :
    ∃ registry, ofList scatteredPlaces = .ok registry ∧
      (∃ location ∈ registry.toList, location.scope ≠ .host) ∧
      registry.defaultLocation.map Location.id = some "edge-1" := by
    refine ⟨(ofList scatteredPlaces).toOption.getD empty, ?_, ?_, ?_⟩ <;> decide +kernel
  obtain ⟨-, listing, -, sorted, begins, -⟩ := searchOrder_is_sorted_listing built
  obtain ⟨preferred, default, head⟩ := begins located
  rw [default] at first
  exact ⟨registry, built, listing, sorted, preferred, default, Option.some.inj first, head⟩

end Registry

end Fleet
