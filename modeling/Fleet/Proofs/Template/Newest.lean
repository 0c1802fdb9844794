import Fleet.Proofs.Template.Resolution

/-!
# The newest image and the order of listings

Versions are compared segment by segment, numbers with numbers and everything else as text. Mixed
segments can form a circle, in which every version is below another one: `9` is below `10`, `10`
below `1a`, and `1a` below `9`. So an image that no other one beats need not exist. Where it does,
it is the image that is chosen, and the order in which a provider lists its images and sizes does
not matter. Where it does not, the chosen image is beaten by another one, and some other order of
the same images leads to another choice.
-/

namespace Fleet

namespace Version

theorem compareSegments_swap (left right : String) :
    compareSegments left right = (compareSegments right left).swap := by
  simp only [compareSegments]
  cases segmentNumber left <;> cases segmentNumber right <;>
    exact Std.OrientedOrd.eq_swap

theorem compareLists_swap (left right : List String) :
    compareLists left right = (compareLists right left).swap := by
  induction left generalizing right with
  | nil => cases right <;> rfl
  | cons segment rest inductionHypothesis =>
    cases right with
    | nil => rfl
    | cons other others =>
      rw [compareLists, compareLists, compareSegments_swap, inductionHypothesis others,
        Ordering.swap_then]

instance : Std.OrientedCmp order where
  eq_swap := compareLists_swap _ _

end Version

/-- One image beats another: its version is greater, or the versions are equal and its name is
smaller. -/
def Image.Beats (left right : Image) : Prop :=
  Version.order left.version right.version = .gt ∨
    Version.order left.version right.version = .eq ∧ left.id < right.id

namespace Criteria

variable {criteria : Criteria} {catalog : Catalog}

instance : Std.OrientedCmp imageOrder where
  eq_swap := by
    intro left right
    have versions : Version.order left.version right.version =
        (Version.order right.version left.version).swap := Std.OrientedCmp.eq_swap
    have names : compare right.id left.id = (compare left.id right.id).swap :=
      Std.OrientedOrd.eq_swap
    rw [imageOrder, imageOrder, Ordering.swap_then, versions, names]

theorem imageOrder_eq_gt_iff (left right : Image) :
    imageOrder left right = .gt ↔ left.Beats right := by
  rw [imageOrder, Ordering.then_eq_gt, Std.OrientedCmp.gt_iff_lt (a := right.id),
    compare_lt_iff_lt, Image.Beats]

theorem id_eq_of_imageOrder
    {left right : Image}
    (equal : imageOrder left right = .eq) :
    left.id = right.id := by
  rw [imageOrder, Ordering.then_eq_eq] at equal
  exact (compare_eq_iff_eq.1 equal.2).symm

/-- An image among others that none of them beats. -/
def Newest (images : List Image) (image : Image) : Prop :=
  image ∈ images ∧ ∀ other ∈ images, ¬ other.Beats image

theorem Newest.perm
    {left right : List Image}
    {image : Image}
    (newest : Newest left image)
    (reordered : left.Perm right) :
    Newest right image :=
  ⟨reordered.subset newest.1, fun other member => newest.2 other (reordered.mem_iff.2 member)⟩

/-- The newest image is chosen, wherever it is listed. -/
theorem greatest?_eq_of_newest
    {images : List Image}
    (distinct : (images.map Image.id).Nodup)
    {image : Image}
    (newest : Newest images image) :
    greatest? imageOrder images = some image := by
  rw [greatest?_eq_choice]
  apply choice_eq_of_wins (greaterOf_eq_or imageOrder) newest.1
  intro other listed
  have unbeaten : imageOrder other image ≠ .gt := fun above =>
    newest.2 other listed ((imageOrder_eq_gt_iff other image).1 above)
  constructor
  · rw [greaterOf]
    split
    · rfl
    · rename_i notAbove
      cases compared : imageOrder image other with
      | gt => exact absurd compared notAbove
      | lt => exact absurd (Std.OrientedCmp.gt_iff_lt.2 compared) unbeaten
      | eq => exact eq_of_id_eq distinct listed newest.1 (id_eq_of_imageOrder compared).symm
  · rw [greaterOf, if_neg unbeaten]

/-- A chosen image that is beaten is not chosen when the one that beats it is listed last. -/
theorem greatest?_ne_of_beats
    {images : List Image}
    {chosen other : Image}
    (beats : other.Beats chosen) :
    greatest? imageOrder (images ++ [other]) ≠ some chosen := by
  have above : imageOrder other chosen = .gt := (imageOrder_eq_gt_iff other chosen).2 beats
  have different : other ≠ chosen := by
    rintro rfl
    have self : imageOrder other other = .eq := Std.ReflCmp.compare_self
    rw [self] at above
    cases above
  rw [greatest?_eq_choice]
  cases images with
  | nil => simpa [choice] using different
  | cons first rest =>
    simp only [List.cons_append, choice, List.foldl_append, List.foldl_cons, List.foldl_nil]
    rw [greaterOf]
    split
    · rename_i stays
      intro same
      rw [Option.some.inj same, Std.OrientedCmp.gt_iff_lt, above] at stays
      cases stays
    · simpa using different

/-! ## Other orders of the same offers -/

/-- Another catalog offers the same, listed in some other order. -/
structure Relists (catalog other : Catalog) : Prop where
  images : other.images.Perm catalog.images
  sizes : other.sizes.Perm catalog.sizes
  locations : other.locations = catalog.locations

namespace Relists

variable {other : Catalog} (relists : Relists catalog other)

include relists

theorem isAvailable_eq
    (image : Image)
    (location : LocationId) :
    other.isAvailable image location = catalog.isAvailable image location := by
  rw [Catalog.isAvailable, Catalog.isAvailable, relists.locations]

theorem imagesAt_perm
    (criteria : Criteria)
    (location : Location) :
    (criteria.imagesAt other location).Perm (criteria.imagesAt catalog location) := by
  simp only [imagesAt, relists.isAvailable_eq]
  exact relists.images.filter _

theorem imageless_iff (location : Location) :
    criteria.Imageless other location ↔ criteria.Imageless catalog location := by
  rw [← imagesAt_eq_nil_iff, ← imagesAt_eq_nil_iff]
  constructor
  · intro empty
    exact List.perm_nil.1 (empty ▸ relists.imagesAt_perm criteria location).symm
  · intro empty
    exact List.perm_nil.1 (empty ▸ relists.imagesAt_perm criteria location)

/-- Of images with different names, the one with a given name is found in every order. -/
theorem find?_eq
    (distinct : (catalog.images.map Image.id).Nodup)
    (id : ImageId) :
    other.images.find? (fun image => image.id == id) =
      catalog.images.find? fun image => image.id == id := by
  cases found : catalog.images.find? fun image => image.id == id with
  | none =>
    rw [List.find?_eq_none] at found ⊢
    intro image listed
    exact found image (relists.images.subset listed)
  | some image =>
    have listed := relists.images.mem_iff.2 (List.mem_of_find?_eq_some found)
    have named : image.id = id := by simpa using List.find?_some found
    cases foundOther : other.images.find? fun image => image.id == id with
    | none => exact absurd (beq_iff_eq.2 named) (List.find?_eq_none.1 foundOther image listed)
    | some first =>
      have firstNamed : first.id = id := by simpa using List.find?_some foundOther
      have firstListed := relists.images.subset (List.mem_of_find?_eq_some foundOther)
      rw [eq_of_id_eq distinct firstListed (relists.images.subset listed)
        (firstNamed.trans named.symm)]

theorem candidates_eq
    (criteria : Criteria)
    (distinct : (catalog.images.map Image.id).Nodup) :
    criteria.candidates other = criteria.candidates catalog := by
  simp only [candidates, onlyLocation, boundImage, relists.locations, relists.isAvailable_eq,
    relists.find?_eq distinct]

/-- Sizes with different names are chosen alike in every order. -/
theorem sizeFor_eq
    (distinct : (catalog.sizes.map Size.id).Nodup)
    (image : Image) :
    criteria.sizeFor other image = criteria.sizeFor catalog image := by
  have reordered : (criteria.sizesFor other image).Perm (criteria.sizesFor catalog image) :=
    relists.sizes.filter _
  rw [Criteria.sizeFor_eq, Criteria.sizeFor_eq,
    (follows_sizePick criteria).choice_perm reordered]
  intro first firstFits second secondFits above below
  have listed : ∀ size ∈ criteria.sizesFor other image, size ∈ catalog.sizes :=
    fun size fits =>
    relists.sizes.subset ((mem_sizesFor_iff image size).1 fits).1
  apply List.inj_on_of_nodup_map distinct (listed first firstFits) (listed second secondFits)
  exact criteria.id_eq_of_not_prefers below above

end Relists

/-- Wherever criteria are decided, some image that fits is the newest there. -/
def HasNewest (criteria : Criteria) (catalog : Catalog) : Prop :=
  ∀ locations location chosen, criteria.candidates catalog = .ok locations →
    criteria.Decides catalog locations location chosen →
    ∃ image, Newest (criteria.imagesAt catalog location) image

theorem nodup_ids_imagesAt
    (distinct : (catalog.images.map Image.id).Nodup)
    (location : Location) :
    ((criteria.imagesAt catalog location).map Image.id).Nodup :=
  distinct.sublist (List.filter_sublist.map Image.id)

theorem imageAt_eq_ok_iff
    (location : Location)
    (image : Image) :
    criteria.imageAt catalog location = .ok image ↔
      greatest? imageOrder (criteria.imagesAt catalog location) = some image := by
  rw [imageAt]
  cases greatest? imageOrder (criteria.imagesAt catalog location) <;> simp

/-- Where an image is the newest, it decides under every order of the offers. -/
theorem Relists.decides
    {other : Catalog}
    (relists : Relists catalog other)
    (distinct : (catalog.images.map Image.id).Nodup)
    {locations : List Location}
    {location : Location}
    {chosen : Image}
    (decides : criteria.Decides catalog locations location chosen)
    (newest : ∃ image, Newest (criteria.imagesAt catalog location) image) :
    Newest (criteria.imagesAt catalog location) chosen ∧
      criteria.Decides other locations location chosen := by
  obtain ⟨before, after, shape, skipped, found⟩ := decides
  obtain ⟨image, newest⟩ := newest
  have chosenHere := greatest?_eq_of_newest (nodup_ids_imagesAt distinct location) newest
  rw [imageAt_eq_ok_iff, chosenHere] at found
  cases found
  refine ⟨newest, before, after, shape, ?_, ?_⟩
  · intro earlier member
    exact (relists.imageless_iff earlier).2 (skipped earlier member)
  · have reordered := relists.imagesAt_perm criteria location
    rw [imageAt_eq_ok_iff]
    apply greatest?_eq_of_newest _ (newest.perm reordered.symm)
    exact ((reordered.map Image.id).nodup_iff).2 (nodup_ids_imagesAt distinct location)

/-- In whatever order the same is offered, the template is the same when the image is the newest
one. -/
theorem Relists.resolve_eq
    {other : Catalog}
    (relists : Relists catalog other)
    (distinctImages : (catalog.images.map Image.id).Nodup)
    (distinctSizes : (catalog.sizes.map Size.id).Nodup)
    (newest : criteria.HasNewest catalog) :
    criteria.resolve other = criteria.resolve catalog := by
  obtain ⟨locations, words, _, tried⟩ := exists_tries criteria catalog
  have triedAlike := (relists.candidates_eq criteria distinctImages).trans tried
  rcases decides_or_imageless locations with ⟨location, chosen, decides⟩ | imageless
  · have found := newest locations location chosen
      (tried.trans (orRefuse_of_decides decides words)) decides
    have alike := (relists.decides distinctImages decides found).2
    rw [resolve_of_decides triedAlike alike, resolve_of_decides tried decides, templateWith,
      templateWith, relists.sizeFor_eq distinctSizes]
  · cases locations with
    | nil => rw [resolve, resolve, triedAlike, tried]; rfl
    | cons first rest =>
      rw [resolve_of_imageless triedAlike, resolve_of_imageless tried imageless]
      intro location member
      exact (relists.imageless_iff location).2 (imageless location member)

/-- The image of a template is the newest of those that fit, where there is a newest one. -/
theorem newest_of_resolve
    (distinct : (catalog.images.map Image.id).Nodup)
    (newest : criteria.HasNewest catalog)
    {template : Template}
    (resolved : criteria.resolve catalog = .ok template) :
    Newest (criteria.imagesAt catalog template.location) template.image := by
  obtain ⟨locations, words, _, tried⟩ := exists_tries criteria catalog
  have decides := (decides_of_resolve tried resolved).1
  have found := newest _ _ _ (tried.trans (orRefuse_of_decides decides words)) decides
  exact (Relists.decides ⟨.refl _, .refl _, rfl⟩ distinct decides found).1

/-- The catalog with one of its images listed last. -/
def listedLast (catalog : Catalog) (image : Image) : Catalog :=
  { catalog with images := catalog.images.erase image ++ [image] }

theorem relists_listedLast
    {image : Image}
    (offered : image ∈ catalog.images) :
    Relists catalog (listedLast catalog image) where
  images := (List.perm_append_singleton _ _).trans (List.perm_cons_erase offered).symm
  sizes := List.Perm.refl _
  locations := rfl

theorem imagesAt_listedLast
    {location : Location}
    {image : Image}
    (fits : image ∈ criteria.imagesAt catalog location) :
    ∃ others, criteria.imagesAt (listedLast catalog image) location = others ++ [image] := by
  have accepted := (List.mem_filter.1 fits).2
  refine ⟨(catalog.images.erase image).filter fun other =>
    criteria.acceptsImage other && catalog.isAvailable other location.id, ?_⟩
  rw [imagesAt, listedLast, List.filter_append]
  congr 1
  exact List.filter_cons_of_pos accepted

/-- Where no image is the newest, another one beats the chosen one, and listed last it prevents the
choice. -/
theorem exists_relists_of_not_newest
    {locations : List Location}
    {location : Location}
    {chosen : Image}
    (decides : criteria.Decides catalog locations location chosen)
    (beaten : ¬ ∃ image, Newest (criteria.imagesAt catalog location) image) :
    (∃ rival ∈ criteria.imagesAt catalog location, rival.Beats chosen) ∧
      ∃ other, Relists catalog other ∧ ∃ image, image ≠ chosen ∧
        criteria.Decides other locations location image := by
  obtain ⟨before, after, shape, skipped, found⟩ := decides
  obtain ⟨rival, fits, beats⟩ :
      ∃ rival ∈ criteria.imagesAt catalog location, rival.Beats chosen := by
    by_contra none
    exact beaten ⟨chosen, mem_of_imageAt found, fun other fits beats =>
      none ⟨other, fits, beats⟩⟩
  refine ⟨⟨rival, fits, beats⟩, listedLast catalog rival, ?_⟩
  have relists := relists_listedLast ((mem_imagesAt_iff location rival).1 fits).1
  refine ⟨relists, ?_⟩
  obtain ⟨others, last⟩ := imagesAt_listedLast fits
  cases again : criteria.imageAt (listedLast catalog rival) location with
  | error error =>
    have empty := (imagesAt_eq_nil_iff location).2 ((imageAt_eq_error_iff location error).1 again).1
    rw [last] at empty
    simp at empty
  | ok image =>
    refine ⟨image, ?_, before, after, shape, ?_, again⟩
    · rintro rfl
      rw [imageAt_eq_ok_iff, last] at again
      exact greatest?_ne_of_beats beats again
    · intro earlier member
      exact (relists.imageless_iff earlier).2 (skipped earlier member)

/-- Images and sizes with different names may be listed in any order as long as some image that fits
is the newest where the criteria are decided, and that image is then the template's. Without a
newest image the chosen one is beaten by another that fits, and some order of the same images leads
to another choice. -/
theorem order_of_offers_matters_iff_not_newest
    (criteria : Criteria)
    (catalog : Catalog)
    (distinctImages : (catalog.images.map Image.id).Nodup)
    (distinctSizes : (catalog.sizes.map Size.id).Nodup) :
    (criteria.HasNewest catalog →
      (∀ other, Relists catalog other → criteria.resolve other = criteria.resolve catalog) ∧
      ∀ template, criteria.resolve catalog = .ok template →
        Newest (criteria.imagesAt catalog template.location) template.image) ∧
    (¬ criteria.HasNewest catalog →
      ∃ locations location chosen, criteria.candidates catalog = .ok locations ∧
        criteria.Decides catalog locations location chosen ∧
        (∃ rival ∈ criteria.imagesAt catalog location, rival.Beats chosen) ∧
        ∃ other, Relists catalog other ∧ ∃ image, image ≠ chosen ∧
          criteria.Decides other locations location image) := by
  constructor
  · intro newest
    exact ⟨fun other relists => relists.resolve_eq distinctImages distinctSizes newest,
      fun template resolved => newest_of_resolve distinctImages newest resolved⟩
  · intro without
    simp only [HasNewest, not_forall] at without
    obtain ⟨locations, location, chosen, tried, decides, beaten⟩ := without
    obtain ⟨rival, otherOrder⟩ := exists_relists_of_not_newest decides beaten
    exact ⟨locations, location, chosen, tried, decides, rival, otherOrder⟩

/-! ## Versions in a circle -/

/-- An image of each of some versions, for one size and one location. -/
def offering (versions : List String) : Catalog where
  images := versions.map fun version => {
    id := "image-" ++ version, name := "Ubuntu", family := .ubuntu, systemDescription := "Ubuntu",
    architecture := "x86_64", version := version, location := none }
  sizes := [{ id := "s", cores := 1, memory := 1, disk := 1, architectures := [] }]
  locations := (Registry.ofList [Location.root "acme" ""]).toOption.getD Registry.empty

/-- Numbers are compared as numbers and with `1a` as texts, so these three go round in a circle. -/
theorem versions_in_circle :
    Version.order "9" "10" = .lt ∧ Version.order "10" "1a" = .lt ∧
      Version.order "1a" "9" = .lt := by
  decide +kernel

/-- The same offers in two orders give two templates. -/
theorem listing_decides_in_circle :
    Relists (offering ["10", "1a", "9"]) (offering ["9", "10", "1a"]) ∧
      ∃ first second, ({} : Criteria).resolve (offering ["10", "1a", "9"]) = .ok first ∧
        ({} : Criteria).resolve (offering ["9", "10", "1a"]) = .ok second ∧
        first.image.id = "image-9" ∧ second.image.id = "image-1a" := by
  refine ⟨⟨List.Perm.map _ (by decide), List.Perm.refl _, rfl⟩, ?_⟩
  exact ⟨_, _, rfl, rfl, rfl, rfl⟩

/-- In the circle no image is the newest, so the order of the offers decides. -/
theorem circular_offers_have_no_newest :
    ¬ ({} : Criteria).HasNewest (offering ["10", "1a", "9"]) ∧
      ∃ locations location chosen,
        ({} : Criteria).candidates (offering ["10", "1a", "9"]) = .ok locations ∧
        ({} : Criteria).Decides (offering ["10", "1a", "9"]) locations location chosen ∧
        (∃ rival ∈ ({} : Criteria).imagesAt (offering ["10", "1a", "9"]) location,
          rival.Beats chosen) ∧
        ∃ other, Relists (offering ["10", "1a", "9"]) other ∧ ∃ image, image ≠ chosen ∧
          ({} : Criteria).Decides other locations location image := by
  have distinctImages : ((offering ["10", "1a", "9"]).images.map Image.id).Nodup := by decide
  have distinctSizes : ((offering ["10", "1a", "9"]).sizes.map Size.id).Nodup := by decide
  have without : ¬ ({} : Criteria).HasNewest (offering ["10", "1a", "9"]) := by
    intro newest
    obtain ⟨relists, first, second, found, foundAgain, firstImage, secondImage⟩ :=
      listing_decides_in_circle
    have same := relists.resolve_eq distinctImages distinctSizes newest
    rw [found, foundAgain] at same
    rw [Except.ok.inj same, firstImage] at secondImage
    exact absurd secondImage (by decide)
  exact ⟨without,
    (order_of_offers_matters_iff_not_newest {} _ distinctImages distinctSizes).2 without⟩

end Criteria

end Fleet
