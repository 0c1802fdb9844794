import Fleet.Proofs.Template.Resolution

/-!
# Asking for the image that was found

Criteria that found an image may be asked again with the name of that image. The same image is
found, in the same size and with the same options, at a location that contains the first one. It is
the same location unless the image is pinned: no location is requested, the image is bound to a
location and the default location lies outside. Then the second search does not go through the
locations but ends at the one to which the image is bound, which may lie above the first one.
-/

namespace Fleet.Criteria

variable {criteria : Criteria} {catalog : Catalog}

/-- The criteria with an image requested by its name. -/
def withImage (criteria : Criteria) (id : ImageId) : Criteria :=
  { criteria with imageId := some id }

/-- Requesting an image moves the search to the location to which the image is bound. -/
structure Pins (criteria : Criteria) (catalog : Catalog) (image : Image) (place : LocationId) :
    Prop where
  unasked : criteria.locationId = none
  boundTo : image.location = some place
  outside : ∃ preferred, catalog.locations.defaultLocation = some preferred ∧
    catalog.isAvailable image preferred.id = false

/-! ## The same image -/

section SameImage

variable {location : Location} {image : Image} (fits : criteria.ImageFits catalog location image)

include fits

/-- Asked for by its name, an image still has to meet the other criteria. -/
theorem imageFits_withImage_iff
    (elsewhere : Location)
    (other : Image) :
    (criteria.withImage image.id).ImageFits catalog elsewhere other ↔
      other.id = image.id ∧ criteria.ImageFits catalog elsewhere other := by
  constructor
  · intro again
    have named : other.id = image.id := again.id _ rfl
    refine ⟨named, ?_, again.family, again.name, again.architecture, again.available⟩
    intro wanted asked
    exact named.trans (fits.id wanted asked)
  · rintro ⟨named, again⟩
    refine ⟨?_, again.family, again.name, again.architecture, again.available⟩
    intro wanted asked
    cases asked
    exact named

/-- What fits at a location still fits there when it is asked for, and nothing else does. -/
theorem imageAt_withImage
    (distinct : (catalog.images.map Image.id).Nodup)
    (offered : image ∈ catalog.images) :
    (criteria.withImage image.id).imageAt catalog location = .ok image := by
  cases found : (criteria.withImage image.id).imageAt catalog location with
  | error error =>
    have imageless := ((imageAt_eq_error_iff location error).1 found).1
    exact absurd ((imageFits_withImage_iff fits location image).2 ⟨rfl, fits⟩)
      (imageless image offered)
  | ok other =>
    obtain ⟨otherOffered, otherFits⟩ :=
      (mem_imagesAt_iff location other).1 (mem_of_imageAt found)
    have named := ((imageFits_withImage_iff fits location other).1 otherFits).1
    rw [eq_of_id_eq distinct otherOffered offered named]

/-- The location that decided still decides when its image is asked for. -/
theorem decides_withImage
    (distinct : (catalog.images.map Image.id).Nodup)
    (offered : image ∈ catalog.images)
    {before : List Location}
    (after : List Location)
    (skipped : ∀ earlier ∈ before, criteria.Imageless catalog earlier) :
    (criteria.withImage image.id).Decides catalog (before ++ location :: after) location image := by
  refine ⟨before, after, rfl, ?_, imageAt_withImage fits distinct offered⟩
  intro earlier member other otherOffered otherFits
  exact skipped earlier member other otherOffered
    ((imageFits_withImage_iff fits earlier other).1 otherFits).2

end SameImage

/-! ## The location -/

/-- Whatever comes into question is registered. -/
theorem Tries.registered
    {locations : List Location}
    {words : String}
    (tries : criteria.Tries catalog locations words)
    {location : Location}
    (member : location ∈ locations) :
    location ∈ catalog.locations.toList := by
  have found : ∀ id, location ∈ (catalog.locations.get? id).toList →
      location ∈ catalog.locations.toList := fun id member =>
    (Registry.mem_toList_iff location).2 ⟨id, Option.mem_toList.1 member⟩
  cases tries with
  | requested => exact found _ member
  | nowhere => cases member
  | bound => exact found _ member
  | everywhere => exact Registry.mem_toList_of_mem_searchOrder member

/-- Of images with different names, the one that is looked for by its name is found. -/
theorem eq_of_find?_id
    {image found : Image}
    (distinct : (catalog.images.map Image.id).Nodup)
    (offered : image ∈ catalog.images)
    (first : catalog.images.find? (fun other => other.id == image.id) = some found) :
    found = image :=
  eq_of_id_eq distinct (List.mem_of_find?_eq_some first) offered
    (beq_iff_eq.1 (List.find?_some first :))

/-- Asking for an image that fits leaves the locations as they were unless the image is pinned. -/
theorem tries_or_pins_of_withImage
    {location : Location}
    {image : Image}
    (distinct : (catalog.images.map Image.id).Nodup)
    (offered : image ∈ catalog.images)
    (fits : criteria.ImageFits catalog location image)
    {locations : List Location}
    {words : String}
    (tries : (criteria.withImage image.id).Tries catalog locations words) :
    (criteria.Tries catalog locations words ∧ ∀ place, ¬ criteria.Pins catalog image place) ∨
      ∃ place, criteria.Pins catalog image place ∧
        locations = (catalog.locations.get? place).toList := by
  cases tries with
  | requested asked =>
    refine Or.inl ⟨Tries.requested asked, fun place pins => ?_⟩
    cases asked.symm.trans pins.unasked
  | nowhere unasked hosts =>
    refine Or.inl ⟨Tries.nowhere unasked hosts, fun place pins => ?_⟩
    obtain ⟨preferred, default, _⟩ := pins.outside
    cases (Registry.defaultLocation_eq_none_iff.2 hosts).symm.trans default
  | bound unasked default wanted first boundTo unavailable =>
    cases wanted
    cases eq_of_find?_id distinct offered first
    exact Or.inr ⟨_, ⟨unasked, boundTo, _, default, unavailable⟩, rfl⟩
  | everywhere unasked default free =>
    refine Or.inl ⟨Tries.everywhere unasked default ?_, fun place pins => ?_⟩
    · intro id other place wanted first boundTo
      obtain rfl := fits.id id wanted
      exact free _ other place rfl first boundTo
    · obtain ⟨preferred, again, unavailable⟩ := pins.outside
      cases default.symm.trans again
      cases first : catalog.images.find? fun other => other.id == image.id with
      | none =>
        exact List.find?_eq_none.1 first image offered (beq_self_eq_true image.id)
      | some found =>
        cases eq_of_find?_id distinct offered first
        cases (free _ _ place rfl first pins.boundTo).symm.trans unavailable

/-- Asking for a pinned image ends at the location to which it is bound, which is registered and
contains the one where the image was found. It is available there, and no other criterion for images
depends on the location. -/
theorem decides_of_pins
    {location : Location}
    {image : Image}
    {place : LocationId}
    (named : catalog.locations.Named)
    (distinct : (catalog.images.map Image.id).Nodup)
    (registered : location ∈ catalog.locations.toList)
    (offered : image ∈ catalog.images)
    (fits : criteria.ImageFits catalog location image)
    (boundTo : image.location = some place) :
    ∃ pinned, catalog.locations.get? place = some pinned ∧
      (criteria.withImage image.id).Decides catalog [pinned] pinned image ∧
      catalog.locations.isSameOrChild location.id pinned.id = .ok true := by
  have within : catalog.locations.isSameOrChild location.id place = .ok true := by
    have available := fits.available
    simp only [Catalog.isAvailable, boundTo] at available
    split at available
    · rename_i answer answered
      rwa [available] at answered
    · cases available
  obtain ⟨pinned, found⟩ := named.exists_of_isSameOrChild registered within
  obtain rfl := named place pinned found
  have availableThere : catalog.isAvailable image pinned.id = true := by
    simp only [Catalog.isAvailable, boundTo, Registry.isSameOrChild_self]
  have fitsThere : criteria.ImageFits catalog pinned image :=
    ⟨fits.id, fits.family, fits.name, fits.architecture, availableThere⟩
  have skipped : ∀ earlier ∈ ([] : List Location), criteria.Imageless catalog earlier := by simp
  exact ⟨pinned, found, decides_withImage fitsThere distinct offered [] skipped, within⟩

/-- Elsewhere, the same image is given the same size. -/
theorem templateWith_withImage
    {location : Location}
    {image : Image}
    {template : Template}
    (made : criteria.templateWith catalog location image = .ok template)
    (id : ImageId)
    (elsewhere : Location) :
    (criteria.withImage id).templateWith catalog elsewhere image =
      .ok { template with location := elsewhere } := by
  obtain ⟨size, sized, rest⟩ := Results.exists_of_bind_eq_ok made
  cases rest
  have sizedAgain : (criteria.withImage id).sizeFor catalog image = .ok size := sized
  rw [templateWith, sizedAgain]
  rfl

/-! ## The second answer -/

section Answers

variable (distinct : (catalog.images.map Image.id).Nodup) {template : Template}
  (resolved : criteria.resolve catalog = .ok template)

include distinct resolved

/-- An image that is not pinned is found again where it was. -/
theorem resolve_withImage_of_unpinned
    (unpinned : ∀ place, ¬ criteria.Pins catalog template.image place) :
    (criteria.withImage template.image.id).resolve catalog = .ok template := by
  obtain ⟨locations, words, tries, tried⟩ := exists_tries criteria catalog
  obtain ⟨decides, made⟩ := decides_of_resolve tried resolved
  obtain ⟨⟨before, after, shape, skipped⟩, offered, fits, _, _⟩ :=
    selects_of_templateWith decides made
  obtain ⟨locationsAgain, wordsAgain, triesAgain, triedAgain⟩ :=
    exists_tries (criteria.withImage template.image.id) catalog
  rcases tries_or_pins_of_withImage distinct offered fits triesAgain with
    ⟨alike, _⟩ | ⟨_, pins, _⟩
  · obtain ⟨rfl, rfl⟩ := alike.unique tries
    have decidesAgain := decides_withImage fits distinct offered after skipped
    rw [resolve_of_decides triedAgain (shape ▸ decidesAgain)]
    exact templateWith_withImage made _ _
  · exact absurd pins (unpinned _)

/-- A pinned image is found again at the location to which it is bound. -/
theorem resolve_withImage_of_pins
    (named : catalog.locations.Named)
    {place : LocationId}
    (pins : criteria.Pins catalog template.image place) :
    ∃ pinned, catalog.locations.get? place = some pinned ∧
      catalog.locations.get? template.location.id = some template.location ∧
      catalog.locations.isSameOrChild template.location.id pinned.id = .ok true ∧
      (criteria.withImage template.image.id).resolve catalog =
        .ok { template with location := pinned } := by
  obtain ⟨locations, words, tries, tried⟩ := exists_tries criteria catalog
  obtain ⟨decides, made⟩ := decides_of_resolve tried resolved
  obtain ⟨⟨before, after, shape, _⟩, offered, fits, _, _⟩ :=
    selects_of_templateWith decides made
  have registered : template.location ∈ catalog.locations.toList :=
    tries.registered (shape ▸ List.mem_append_right before List.mem_cons_self)
  obtain ⟨pinned, found, decidesAgain, within⟩ :=
    decides_of_pins named distinct registered offered fits pins.boundTo
  refine ⟨pinned, found, named.get?_id registered, within, ?_⟩
  obtain ⟨locationsAgain, wordsAgain, triesAgain, triedAgain⟩ :=
    exists_tries (criteria.withImage template.image.id) catalog
  rcases tries_or_pins_of_withImage distinct offered fits triesAgain with
    ⟨_, unpinned⟩ | ⟨other, otherPins, only⟩
  · exact absurd pins (unpinned place)
  · obtain rfl : other = place :=
      Option.some.inj (otherPins.boundTo.symm.trans pins.boundTo)
    have single : locationsAgain = [pinned] := by rw [only, found]; rfl
    rw [resolve_of_decides triedAgain (single ▸ decidesAgain)]
    exact templateWith_withImage made _ _

end Answers

/-- Criteria that found a template find one with the same image, size and options when that image is
requested by its name. Its location contains the first one; for a pinned image it is the location to
which the image is bound. So the template is reproduced exactly when its image is not pinned to
another location. -/
theorem resolve_withImage
    {locations : List Location}
    (built : Registry.ofList locations = .ok catalog.locations)
    (distinct : (catalog.images.map Image.id).Nodup)
    {template : Template}
    (resolved : criteria.resolve catalog = .ok template) :
    ∃ again, (criteria.withImage template.image.id).resolve catalog = .ok again ∧
      again = { template with location := again.location } ∧
      catalog.locations.isSameOrChild template.location.id again.location.id = .ok true ∧
      (∀ place, criteria.Pins catalog template.image place → again.location.id = place) ∧
      (again = template ↔
        ∀ place, criteria.Pins catalog template.image place →
          place = template.location.id) := by
  have named := Registry.named_of_ofList built
  by_cases pinned : ∃ place, criteria.Pins catalog template.image place
  · obtain ⟨place, pins⟩ := pinned
    obtain ⟨bound, found, registered, within, again⟩ :=
      resolve_withImage_of_pins distinct resolved named pins
    have only : ∀ other, criteria.Pins catalog template.image other → bound.id = other :=
      fun other otherPins => (named place bound found).trans
        (Option.some.inj (pins.boundTo.symm.trans otherPins.boundTo))
    refine ⟨_, again, rfl, within, only, ?_⟩
    constructor
    · intro same other otherPins
      rw [← only other otherPins, ← congrArg Template.location same]
    · intro stays
      rw [stays place pins, registered] at found
      rw [← Option.some.inj found]
  · have unpinned : ∀ place, ¬ criteria.Pins catalog template.image place :=
      fun place pins => pinned ⟨place, pins⟩
    refine ⟨template, resolve_withImage_of_unpinned distinct resolved unpinned, rfl,
      Registry.isSameOrChild_self _ _, ?_, ?_⟩
    · exact fun place pins => absurd pins (unpinned place)
    · exact ⟨fun _ place pins => absurd pins (unpinned place), fun _ => rfl⟩

/-- A provider with a zone of its own, and a region with another zone. -/
def twoZones : List Location :=
  let provider := Location.root "acme" ""
  let region := Location.childOf provider "us" .region ""
  [provider, Location.childOf provider "eu-1" .zone "", region,
    Location.childOf region "us-1" .zone ""]

/-- One image, which is bound to the region, and one size. -/
def regionalCatalog : Catalog where
  images := [{
    id := "us-image", name := "Ubuntu", family := .ubuntu, systemDescription := "Ubuntu",
    architecture := "x86_64", version := "1", location := some "us" }]
  sizes := [{ id := "s", cores := 1, memory := 1, disk := 1, architectures := [] }]
  locations := (Registry.ofList twoZones).toOption.getD Registry.empty

/-- Without any criteria the image is found in the zone of its region, and asked for by its name, in
the region. -/
theorem regional_image_found_in_region :
    ∃ template, ({} : Criteria).resolve regionalCatalog = .ok template ∧
      template.location.id = "us-1" ∧
      ∃ again,
        (({} : Criteria).withImage template.image.id).resolve regionalCatalog = .ok again ∧
        again.location.id = "us" ∧ again ≠ template := by
  have built : Registry.ofList twoZones = .ok regionalCatalog.locations := by decide +kernel
  have distinct : (regionalCatalog.images.map Image.id).Nodup := by decide
  obtain ⟨template, resolved, image, place⟩ : ∃ template,
      ({} : Criteria).resolve regionalCatalog = .ok template ∧
      template.image.location = some "us" ∧ template.location.id = "us-1" :=
    ⟨_, rfl, rfl, rfl⟩
  have pins : ({} : Criteria).Pins regionalCatalog template.image "us" :=
    ⟨rfl, image, _, rfl, by rw [Catalog.isAvailable, image]; decide +kernel⟩
  obtain ⟨again, found, _, _, bound, same⟩ := resolve_withImage built distinct resolved
  have inRegion := bound "us" pins
  refine ⟨template, resolved, place, again, found, inRegion, fun equal => ?_⟩
  have stays := same.1 equal "us" pins
  rw [place] at stays
  exact absurd stays (by decide)

end Fleet.Criteria
