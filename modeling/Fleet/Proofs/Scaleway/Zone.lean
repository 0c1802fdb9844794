import Fleet.Proofs.Location.Walk
import Fleet.Scaleway.Backend
import Fleet.Service.Basic

/-!
# The hierarchy of a zone

A backend offers three locations: the provider, the region of its zone, and the zone. The name of
the region is read off the name of the zone, and all three names stand in one registry. A zone that
is written as a region, a hyphen and digits lies below its region, unless that region has the name
of the provider. Any other zone is its own region, so it would own itself, and no registry can be
built; a configuration accepts such a zone all the same.
-/

namespace Fleet.Scaleway

variable {zone region : String}

/-- The zone is written as the region, a hyphen and digits. -/
def InRegion (zone region : String) : Prop :=
  region ≠ "" ∧ ∃ index : List Char,
    zone.toList = region.toList ++ '-' :: index ∧
      ∀ character ∈ index, character.isDigit = true

/-- The zone lies in a region whose name is not taken by the provider. -/
def HasOwnRegion (zone : String) : Prop :=
  ∃ region, InRegion zone region ∧ region ≠ providerName

/-- The offered locations form a hierarchy in which the zone belongs to the provider. -/
structure UsableFor (zone : String) (offered : List Location) (registry : Registry) : Prop where
  built : Registry.ofList offered = .ok registry
  valid : registry.validate = .ok ()
  placed : ∃ location, registry.get? zone = some location ∧ location.scope = .zone ∧
    registry.providerOf location = .ok providerLocation

/-! ## The region of a zone -/

/-- There is no hyphen among digits, so a zone is cut behind its region. -/
theorem InRegion.exists_cut (inside : InRegion zone region) :
    ∃ index : List Char, Text.cutAtLast '-' zone.toList = some (region.toList, index) ∧
      ∀ character ∈ index, character.isDigit = true := by
  obtain ⟨-, index, written, digits⟩ := inside
  refine ⟨index, Text.cutAtLast_eq_some_iff.2 ⟨written, fun hyphen => ?_⟩, digits⟩
  exact absurd (digits '-' hyphen) (by decide)

theorem InRegion.regionOf_eq (inside : InRegion zone region) : regionOf zone = region := by
  obtain ⟨index, cut, digits⟩ := inside.exists_cut
  have accepted : (!region.toList.isEmpty && index.all Char.isDigit) = true := by
    simpa [inside.1] using digits
  rw [regionOf, cut]
  dsimp only
  rw [if_pos accepted, String.ofList_toList]

/-- A zone that lies in no region is its own region. -/
theorem regionOf_eq_self (outside : ∀ region, ¬ InRegion zone region) :
    regionOf zone = zone := by
  rw [regionOf]
  split
  · rename_i before index cut
    split
    · rename_i accepted
      simp only [Bool.and_eq_true, List.all_eq_true] at accepted
      refine absurd ⟨?_, index, ?_, accepted.2⟩ (outside (String.ofList before))
      · intro empty
        simp_all
      · rw [String.toList_ofList, (Text.cutAtLast_eq_some_iff.1 cut).1]
    · rfl
  · rfl

theorem InRegion.region_ne_zone (inside : InRegion zone region) : region ≠ zone := by
  rintro rfl
  obtain ⟨-, index, written, -⟩ := inside
  have longer := congrArg List.length written
  simp at longer

/-- The zone has a hyphen in its name, and the provider has none. -/
theorem InRegion.zone_ne_providerName (inside : InRegion zone region) : zone ≠ providerName := by
  rintro rfl
  obtain ⟨-, index, written, -⟩ := inside
  have hyphen : '-' ∈ providerName.toList := by simp [written]
  exact absurd hyphen (by decide)

/-! ## The offered locations -/

theorem locationsFor_singleton (zone : String) :
    locationsFor [zone] = [providerLocation, regionLocation (regionOf zone), zoneLocation zone] :=
  rfl

/-- A region with the name of the provider owns itself. -/
theorem ofList_locationsFor_of_taken (taken : regionOf zone = providerName) :
    Registry.ofList (locationsFor [zone]) = .error (.selfParent providerName) := by
  have provider : [providerLocation].foldlM Registry.add Registry.empty =
      .ok (Registry.holding [providerLocation]) := rfl
  rw [locationsFor_singleton, taken]
  exact Registry.ofList_of_selfParent provider rfl

/-- A zone that lies in no region owns itself. -/
theorem ofList_locationsFor_of_outside (outside : ∀ region, ¬ InRegion zone region) :
    Registry.ofList (locationsFor [zone]) = .error (.selfParent zone) := by
  have alone := regionOf_eq_self outside
  by_cases taken : zone = providerName
  · rw [ofList_locationsFor_of_taken (alone.trans taken), taken]
  · have above : [providerLocation, regionLocation zone].foldlM Registry.add Registry.empty =
        .ok (Registry.holding [providerLocation, regionLocation zone]) := by
      refine Registry.foldlM_add_eq_ok_iff.2 ⟨?_, ?_, fun _ _ => rfl, rfl⟩ <;>
        simpa [providerLocation, regionLocation, Location.root, Location.childOf]
          using Ne.symm taken
    rw [locationsFor_singleton, alone]
    exact Registry.ofList_of_selfParent above (by rw [zoneLocation, alone]; rfl)

section OwnRegion

variable (inside : InRegion zone region) (own : region ≠ providerName)

include inside own

theorem wellOwned_locationsFor : WellOwned (locationsFor [zone]) := by
  have regionApart := inside.region_ne_zone
  have zoneApart := inside.zone_ne_providerName
  rw [locationsFor_singleton, zoneLocation, inside.regionOf_eq]
  constructor <;>
    simp [providerLocation, regionLocation, Location.root, Location.childOf, own, own.symm,
      regionApart, zoneApart.symm]

/-- The locations that are offered for a zone can be used when the zone lies in a region that is not
named like the provider. -/
theorem usableFor_locationsFor :
    UsableFor zone (locationsFor [zone]) (Registry.holding (locationsFor [zone])) := by
  have wellOwned := wellOwned_locationsFor inside own
  have built := Registry.ofList_eq_ok_iff.2 ⟨wellOwned, rfl⟩
  have named := (Registry.closed_holding wellOwned).named
  have found : ∀ location ∈ locationsFor [zone],
      (Registry.holding (locationsFor [zone])).get? location.id = some location :=
    fun _ => Registry.get?_holding wellOwned.distinct
  have listed : ∀ location ∈ (Registry.holding (locationsFor [zone])).toList,
      location ∈ locationsFor [zone] :=
    fun _ => (Registry.toList_holding_perm wellOwned.distinct).mem_iff.1
  generalize Registry.holding (locationsFor [zone]) = registry at *
  rw [locationsFor_singleton] at found listed
  have foundProvider : registry.get? providerName = some providerLocation :=
    found providerLocation (by simp)
  have foundRegion : registry.get? (regionOf zone) = some (regionLocation (regionOf zone)) :=
    found (regionLocation (regionOf zone)) (by simp)
  have foundZone : registry.get? zone = some (zoneLocation zone) :=
    found (zoneLocation zone) (by simp)
  have atTop : registry.Rooted providerLocation [] providerLocation :=
    ⟨.top (Registry.owner_eq_none rfl), (by decide : 0 ∈ [0]), rfl, rfl, rfl⟩
  have below : registry.Rooted (regionLocation (regionOf zone)) [providerLocation]
      providerLocation :=
    ⟨.under (Registry.owner_eq_ok_iff.2 (Or.inr ⟨_, _, rfl, foundProvider, rfl⟩))
      atTop.isLine,
      (by decide : 1 ∈ [1]), rfl, rfl, rfl⟩
  have lowest : registry.Rooted (zoneLocation zone)
      [regionLocation (regionOf zone), providerLocation] providerLocation :=
    ⟨.under (Registry.owner_eq_ok_iff.2 (Or.inr ⟨_, _, rfl, foundRegion, rfl⟩)) below.isLine,
      (by decide : 2 ∈ [1, 2]), rfl, rfl, rfl⟩
  refine ⟨built, named.validate_eq_ok_iff.2 fun location known => ?_,
    zoneLocation zone, foundZone, rfl, lowest.providerOf_eq⟩
  have offered := listed location known
  simp only [List.mem_cons, List.not_mem_nil, or_false] at offered
  rcases offered with rfl | rfl | rfl
  · exact ⟨_, _, atTop⟩
  · exact ⟨_, _, below⟩
  · exact ⟨_, _, lowest⟩

end OwnRegion

theorem UsableFor.registryOf_eq
    {offered : List Location}
    {registry : Registry}
    (usable : UsableFor zone offered registry) :
    Service.registryOf offered = .ok registry := by
  rw [Service.registryOf, usable.built]
  show (registry.validate >>= fun _ => pure registry) = _
  rw [usable.valid]
  rfl

/-- Where a zone has no region of its own, some location owns itself. -/
theorem exists_selfParent (without : ¬ HasOwnRegion zone) :
    ∃ id, Registry.ofList (locationsFor [zone]) = .error (.selfParent id) := by
  by_cases inside : ∃ region, InRegion zone region
  · obtain ⟨region, inside⟩ := inside
    have taken : region = providerName := not_not.1 fun own => without ⟨region, inside, own⟩
    exact ⟨_, ofList_locationsFor_of_taken (inside.regionOf_eq.trans taken)⟩
  · exact ⟨_, ofList_locationsFor_of_outside (not_exists.1 inside)⟩

/-- A backend offers the locations of its zone. They form a hierarchy in which the zone belongs to
the provider exactly when the zone lies in a region of its own, and only then a catalog is made of
them. A zone that lies in no region is refused because it owns itself, and so is a region with the
name of the provider. -/
theorem offers_hierarchy_iff_hasOwnRegion
    {σ : Type}
    (backend : Backend σ) :
    ∃ offered, backend.provider.locations = pure (.ok offered) ∧
      ((∃ registry, UsableFor backend.config.zone offered registry) ↔
        HasOwnRegion backend.config.zone) ∧
      (∀ images sizes, (∃ catalog, Service.catalogOf (images, sizes, offered) = .ok catalog) ↔
        HasOwnRegion backend.config.zone) ∧
      ((∀ region, ¬ InRegion backend.config.zone region) →
        Registry.ofList offered = .error (.selfParent backend.config.zone)) ∧
      (InRegion backend.config.zone providerName →
        Registry.ofList offered = .error (.selfParent providerName)) := by
  refine ⟨locationsFor [backend.config.zone], rfl, ⟨?_, ?_⟩, fun images sizes => ⟨?_, ?_⟩,
    ofList_locationsFor_of_outside, fun inside => ofList_locationsFor_of_taken inside.regionOf_eq⟩
  · rintro ⟨registry, usable⟩
    by_contra without
    obtain ⟨id, refused⟩ := exists_selfParent without
    rw [usable.built] at refused
    cases refused
  · rintro ⟨region, inside, own⟩
    exact ⟨_, usableFor_locationsFor inside own⟩
  · rintro ⟨catalog, loaded⟩
    by_contra without
    obtain ⟨id, refused⟩ := exists_selfParent without
    rw [Service.catalogOf, Service.registryOf, refused] at loaded
    cases loaded
  · rintro ⟨region, inside, own⟩
    rw [Service.catalogOf, (usableFor_locationsFor inside own).registryOf_eq]
    exact ⟨_, rfl⟩

example : HasOwnRegion "fr-par-1" :=
  ⟨"fr-par", ⟨by decide, ['1'], rfl, List.forall_mem_singleton.2 rfl⟩, by decide⟩

/-- A configuration with a zone without an index is accepted, and no registry holds its zone. -/
theorem accepted_zone_owns_itself :
    ∃ config : ScalewayConfig, config.validate = .ok () ∧ config.zone = "local" ∧
      Registry.ofList (locationsFor [config.zone]) = .error (.selfParent "local") := by
  refine ⟨{ secretKey := "secret", project := "project", zone := "local" }, rfl, rfl, ?_⟩
  apply ofList_locationsFor_of_outside
  rintro region ⟨-, index, written, -⟩
  have hyphen : '-' ∈ "local".toList := by simp [written]
  exact absurd hyphen (by decide)

end Fleet.Scaleway
