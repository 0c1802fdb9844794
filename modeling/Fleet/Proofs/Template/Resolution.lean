import Fleet.Proofs.Location.Registered
import Fleet.Proofs.Template.Choice
import Mathlib.Data.List.Nodup
import Mathlib.Data.String.Basic

/-!
# What criteria resolve to

The locations that come into question are tried in order, and the first one at which an image fits
decides. The image is one of those that fit there, and the size is the best of those that fit the
image. Every refusal has one cause: no location comes into question, no image fits at any of them,
or no size fits the image.
-/

namespace Fleet

namespace Size

/-- One size has less to offer than another: fewer cores, or as many and less memory, or as much
memory too and less disk. -/
def Smaller (left right : Size) : Prop :=
  left.cores < right.cores ∨
    left.cores = right.cores ∧
      (left.memory < right.memory ∨ left.memory = right.memory ∧ left.disk < right.disk)

/-- Two sizes have equally much to offer. -/
def SameCapacity (left right : Size) : Prop :=
  left.cores = right.cores ∧ left.memory = right.memory ∧ left.disk = right.disk

theorem compare_capacity_eq_lt_iff (left right : Size) :
    compare left.capacity right.capacity = .lt ↔ left.Smaller right := by
  change List.compareLex compare left.capacity right.capacity = .lt ↔ _
  simp only [capacity, List.compareLex_cons_cons, List.compareLex_nil_nil, Ordering.then_eq_lt,
    compare_lt_iff_lt, compare_eq_iff_eq, Smaller, reduceCtorEq, and_false, or_false]

theorem compare_capacity_eq_eq_iff (left right : Size) :
    compare left.capacity right.capacity = .eq ↔ left.SameCapacity right := by
  change List.compareLex compare left.capacity right.capacity = .eq ↔ _
  simp only [capacity, List.compareLex_cons_cons, List.compareLex_nil_nil, Ordering.then_eq_eq,
    compare_eq_iff_eq, SameCapacity, and_true]

end Size

namespace Criteria

variable {criteria : Criteria} {catalog : Catalog}

/-! ## Images -/

/-- Images that are listed under different names are told apart by their names. -/
theorem eq_of_id_eq
    {images : List Image}
    (distinct : (images.map Image.id).Nodup)
    {left right : Image}
    (leftListed : left ∈ images)
    (rightListed : right ∈ images)
    (same : left.id = right.id) :
    left = right :=
  List.inj_on_of_nodup_map distinct leftListed rightListed same

/-- An image satisfies the criteria and can be booted at a location. -/
structure ImageFits (criteria : Criteria) (catalog : Catalog) (location : Location)
    (image : Image) : Prop where
  id : ∀ wanted, criteria.imageId = some wanted → image.id = wanted
  family : ∀ wanted, criteria.family = some wanted → image.family = wanted
  name : ∀ fragment, criteria.imageName = some fragment →
    (Text.lowerCase fragment).toList <:+: (Text.lowerCase image.name).toList
  architecture : ∀ wanted, criteria.architecture = some wanted →
    Text.lowerCase image.architecture = Text.lowerCase wanted
  available : catalog.isAvailable image location.id = true

theorem mem_imagesAt_iff
    (location : Location)
    (image : Image) :
    image ∈ criteria.imagesAt catalog location ↔
      image ∈ catalog.images ∧ criteria.ImageFits catalog location image := by
  simp only [imagesAt, acceptsImage, List.mem_filter, Bool.and_eq_true, Option.all_eq_true,
    beq_iff_eq, Text.containsText_iff, Text.sameWord]
  constructor
  · rintro ⟨offered, ⟨⟨⟨id, family⟩, name⟩, architecture⟩, available⟩
    exact ⟨offered, id, family, name, architecture, available⟩
  · rintro ⟨offered, fits⟩
    exact ⟨offered, ⟨⟨⟨fits.id, fits.family⟩, fits.name⟩, fits.architecture⟩,
      fits.available⟩

/-- No image of the catalog fits at a location. -/
def Imageless (criteria : Criteria) (catalog : Catalog) (location : Location) : Prop :=
  ∀ image ∈ catalog.images, ¬ criteria.ImageFits catalog location image

theorem imagesAt_eq_nil_iff (location : Location) :
    criteria.imagesAt catalog location = [] ↔ criteria.Imageless catalog location := by
  simp only [List.eq_nil_iff_forall_not_mem, mem_imagesAt_iff, Imageless, not_and]

theorem imageAt_eq_error_iff
    (location : Location)
    (error : TemplateError) :
    criteria.imageAt catalog location = .error error ↔
      criteria.Imageless catalog location ∧
        error = .noMatchingImage (criteria.describeImage location) := by
  rw [← imagesAt_eq_nil_iff, ← choice_eq_none_iff (greaterOf imageOrder),
    ← greatest?_eq_choice, imageAt]
  cases greatest? imageOrder (criteria.imagesAt catalog location) with
  | none => simp [eq_comm]
  | some image => simp

/-- The image at a location is one of those that fit there. -/
theorem mem_of_imageAt
    {location : Location}
    {image : Image}
    (found : criteria.imageAt catalog location = .ok image) :
    image ∈ criteria.imagesAt catalog location := by
  rw [imageAt, greatest?_eq_choice] at found
  split at found
  · rename_i chosen chosenAt
    cases found
    exact mem_of_choice (greaterOf_eq_or imageOrder) chosenAt
  · cases found

/-! ## Sizes -/

/-- A size satisfies the criteria and runs an image. -/
structure SizeFits (criteria : Criteria) (image : Image) (size : Size) : Prop where
  runs : size.architectures = [] ∨ ∃ architecture ∈ size.architectures,
    Text.lowerCase architecture = Text.lowerCase image.architecture
  id : ∀ wanted, criteria.sizeId = some wanted → size.id = wanted
  cores : ∀ least, criteria.minCores = some least → least ≤ size.cores
  memory : ∀ least, criteria.minMemory = some least → least ≤ size.memory

theorem mem_sizesFor_iff
    (image : Image)
    (size : Size) :
    size ∈ criteria.sizesFor catalog image ↔
      size ∈ catalog.sizes ∧ criteria.SizeFits image size := by
  simp only [sizesFor, acceptsSize, Size.supports, List.mem_filter, Bool.and_eq_true,
    Bool.or_eq_true, List.isEmpty_iff, List.any_eq_true, Option.all_eq_true, beq_iff_eq,
    decide_eq_true_eq, Text.sameWord]
  constructor
  · rintro ⟨offered, ⟨⟨runs, id⟩, cores⟩, memory⟩
    exact ⟨offered, runs, id, cores, memory⟩
  · rintro ⟨offered, fits⟩
    exact ⟨offered, ⟨⟨fits.runs, fits.id⟩, fits.cores⟩, fits.memory⟩

/-- One size is preferred to another: a smaller one, or a larger one when the fastest is asked for,
and of two that have equally much to offer the one with the smaller name. -/
def Prefers (criteria : Criteria) (left right : Size) : Prop :=
  (match criteria.preference with
    | .smallest => left.Smaller right
    | .fastest => right.Smaller left) ∨
  left.SameCapacity right ∧ left.id < right.id

/-- A size fits, and no other one that fits is preferred to it. -/
structure SizeChosen (criteria : Criteria) (catalog : Catalog) (image : Image) (size : Size) :
    Prop where
  offered : size ∈ catalog.sizes
  fits : criteria.SizeFits image size
  best : ∀ other ∈ catalog.sizes, criteria.SizeFits image other →
    ¬ criteria.Prefers other size

theorem smallOrder_eq_lt_iff (left right : Size) :
    smallOrder left right = .lt ↔
      left.Smaller right ∨ left.SameCapacity right ∧ left.id < right.id := by
  rw [smallOrder, Ordering.then_eq_lt, Size.compare_capacity_eq_lt_iff,
    Size.compare_capacity_eq_eq_iff, compare_lt_iff_lt]

theorem fastOrder_eq_gt_iff (left right : Size) :
    fastOrder left right = .gt ↔
      right.Smaller left ∨ left.SameCapacity right ∧ left.id < right.id := by
  rw [fastOrder, Ordering.then_eq_gt, Std.OrientedCmp.gt_iff_lt, Size.compare_capacity_eq_lt_iff,
    Size.compare_capacity_eq_eq_iff, Std.OrientedCmp.gt_iff_lt, compare_lt_iff_lt]

instance : Std.TransCmp smallOrder :=
  inferInstanceAs (Std.TransCmp (compareLex (compareOn Size.capacity) (compareOn Size.id)))

instance : Std.TransCmp fastOrder :=
  inferInstanceAs (Std.TransCmp
    (compareLex (compareOn Size.capacity) fun left right => compareOn Size.id right left))

theorem isLE_smallOrder_iff (left right : Size) :
    (smallOrder left right).isLE = true ↔
      ¬ (right.Smaller left ∨ right.SameCapacity left ∧ right.id < left.id) := by
  rw [Ordering.isLE_iff_ne_gt, ← smallOrder_eq_lt_iff]
  exact not_congr Std.OrientedCmp.gt_iff_lt

theorem isLE_fastOrder_iff (left right : Size) :
    (fastOrder left right).isLE = true ↔
      ¬ (right.Smaller left ∨ left.SameCapacity right ∧ left.id < right.id) := by
  rw [Ordering.isLE_iff_ne_gt, fastOrder_eq_gt_iff]

/-- The choice between two sizes that the criteria make. -/
def sizePick (criteria : Criteria) : Size → Size → Size :=
  match criteria.preference with
  | .smallest => lesserOf smallOrder
  | .fastest => greaterOf fastOrder

theorem sizeFor_eq (image : Image) :
    criteria.sizeFor catalog image =
      match choice criteria.sizePick (criteria.sizesFor catalog image) with
      | some size => .ok size
      | none => .error (.noMatchingSize (criteria.describeSize image)) := by
  simp only [sizeFor, sizePick, least?_eq_choice, greatest?_eq_choice]
  cases criteria.preference <;> rfl

theorem follows_sizePick (criteria : Criteria) :
    Follows criteria.sizePick fun chosen other => ¬ criteria.Prefers other chosen := by
  simp only [sizePick, Prefers]
  cases criteria.preference with
  | smallest =>
    simp only [← isLE_smallOrder_iff]
    exact follows_lesserOf smallOrder
  | fastest =>
    simp only [← isLE_fastOrder_iff]
    exact follows_greaterOf fastOrder

/-- Sizes of which neither is preferred have the same name. Whichever size is asked for, one of two
is preferred unless they measure the same. -/
theorem id_eq_of_not_prefers
    (criteria : Criteria)
    {left right : Size}
    (notAbove : ¬ criteria.Prefers left right)
    (notBelow : ¬ criteria.Prefers right left) :
    left.id = right.id := by
  have measures : left.SameCapacity right := by
    simp only [Prefers, Size.Smaller, not_or] at notAbove notBelow
    unfold Size.SameCapacity
    cases preference : criteria.preference <;>
      · simp only [preference] at notAbove notBelow
        omega
  have notLess : ¬ left.id < right.id := fun less => notAbove (Or.inr ⟨measures, less⟩)
  have notMore : ¬ right.id < left.id := fun less =>
    notBelow (Or.inr ⟨⟨measures.1.symm, measures.2.1.symm, measures.2.2.symm⟩, less⟩)
  exact le_antisymm (not_lt.1 notMore) (not_lt.1 notLess)

/-- The size for an image is the best one that fits. -/
theorem sizeChosen_of_sizeFor
    {image : Image}
    {size : Size}
    (found : criteria.sizeFor catalog image = .ok size) :
    criteria.SizeChosen catalog image size := by
  rw [sizeFor_eq] at found
  split at found
  · rename_i chosen chosenFor
    cases found
    have follows := follows_sizePick criteria
    obtain ⟨offered, fits⟩ :=
      (mem_sizesFor_iff image size).1 (mem_of_choice follows.either chosenFor)
    refine ⟨offered, fits, fun other otherOffered otherFits => ?_⟩
    exact follows.above chosenFor other
      ((mem_sizesFor_iff image other).2 ⟨otherOffered, otherFits⟩)
  · cases found

/-- No size of the catalog fits an image. -/
def Sizeless (criteria : Criteria) (catalog : Catalog) (image : Image) : Prop :=
  ∀ size ∈ catalog.sizes, ¬ criteria.SizeFits image size

theorem sizeFor_eq_error_iff
    (image : Image)
    (error : TemplateError) :
    criteria.sizeFor catalog image = .error error ↔
      criteria.Sizeless catalog image ∧
        error = .noMatchingSize (criteria.describeSize image) := by
  have empty : criteria.sizesFor catalog image = [] ↔ criteria.Sizeless catalog image := by
    simp only [List.eq_nil_iff_forall_not_mem, mem_sizesFor_iff, Sizeless, not_and]
  rw [← empty, ← choice_eq_none_iff criteria.sizePick, sizeFor_eq]
  cases choice criteria.sizePick (criteria.sizesFor catalog image) with
  | none => simp [eq_comm]
  | some size => simp

/-! ## Locations -/

/-- The locations that come into question, in order, and what a refusal for lack of any says. -/
inductive Tries (criteria : Criteria) (catalog : Catalog) : List Location → String → Prop where
  /-- Only the requested location. -/
  | requested {id : LocationId} (asked : criteria.locationId = some id) :
    Tries criteria catalog (catalog.locations.get? id).toList s!"id={id}"
  /-- There is neither a zone nor a region nor a provider. -/
  | nowhere (unasked : criteria.locationId = none)
      (hosts : ∀ location ∈ catalog.locations.toList, location.scope = .host) :
    Tries criteria catalog [] "default (catalog has no locations)"
  /-- Only the location to which the requested image is bound, when the image cannot be booted in
  the default location. -/
  | bound {preferred : Location} {id : ImageId} {image : Image} {place : LocationId}
      (unasked : criteria.locationId = none)
      (default : catalog.locations.defaultLocation = some preferred)
      (wanted : criteria.imageId = some id)
      (first : catalog.images.find? (fun image => image.id == id) = some image)
      (boundTo : image.location = some place)
      (unavailable : catalog.isAvailable image preferred.id = false) :
    Tries criteria catalog (catalog.locations.get? place).toList
      s!"location {place} of image {image.id}"
  /-- All locations. -/
  | everywhere {preferred : Location} (unasked : criteria.locationId = none)
      (default : catalog.locations.defaultLocation = some preferred)
      (free : ∀ id image place, criteria.imageId = some id →
        catalog.images.find? (fun image => image.id == id) = some image →
        image.location = some place → catalog.isAvailable image preferred.id = true) :
    Tries criteria catalog catalog.locations.searchOrder "default (catalog has no locations)"

/-- The locations that come into question as a list that is not empty, or the refusal. -/
def orRefuse (locations : List Location) (words : String) : Except TemplateError (List Location) :=
  if locations = [] then .error (.noMatchingLocation words) else .ok locations

theorem onlyLocation_eq
    (id : LocationId)
    (words : String) :
    onlyLocation catalog id words = orRefuse (catalog.locations.get? id).toList words := by
  rw [onlyLocation]
  cases catalog.locations.get? id <;> rfl

/-- What an image is bound to counts when the image is asked for by its id and is not available
where templates are looked for first. -/
theorem boundImage_eq_some_iff
    {preferred : Location}
    {image : Image}
    {place : LocationId} :
    criteria.boundImage catalog preferred = some (image, place) ↔
      ∃ id, criteria.imageId = some id ∧
        catalog.images.find? (fun image => image.id == id) = some image ∧
        image.location = some place ∧ catalog.isAvailable image preferred.id = false := by
  simp only [boundImage, Option.bind_eq_bind, Option.bind_eq_some_iff]
  constructor
  · rintro ⟨id, wanted, found, first, bound, boundTo, decided⟩
    split at decided
    · cases decided
    · rename_i unavailable
      cases decided
      exact ⟨id, wanted, first, boundTo, Bool.eq_false_iff.2 unavailable⟩
  · rintro ⟨id, wanted, first, boundTo, unavailable⟩
    exact ⟨id, wanted, image, first, place, boundTo, by simp [unavailable]⟩

/-- The candidates are the locations that come into question. -/
theorem exists_tries
    (criteria : Criteria)
    (catalog : Catalog) :
    ∃ locations words, criteria.Tries catalog locations words ∧
      criteria.candidates catalog = orRefuse locations words := by
  cases asked : criteria.locationId with
  | some id =>
    exact ⟨_, _, Tries.requested asked, by simp only [candidates, asked, onlyLocation_eq]⟩
  | none =>
    cases default : catalog.locations.defaultLocation with
    | none =>
      refine ⟨_, _, Tries.nowhere asked (Registry.defaultLocation_eq_none_iff.1 default), ?_⟩
      simp only [candidates, asked, default]
      rfl
    | some preferred =>
      cases pinned : criteria.boundImage catalog preferred with
      | some pair =>
        obtain ⟨image, place⟩ := pair
        obtain ⟨id, wanted, first, boundTo, unavailable⟩ := boundImage_eq_some_iff.1 pinned
        refine ⟨_, _, Tries.bound asked default wanted first boundTo unavailable, ?_⟩
        simp only [candidates, asked, default, pinned, onlyLocation_eq]
      | none =>
        refine ⟨_, _, Tries.everywhere asked default ?_, ?_⟩
        · intro id image place wanted first boundTo
          by_contra unavailable
          have found := boundImage_eq_some_iff.2
            ⟨id, wanted, first, boundTo, Bool.eq_false_iff.2 unavailable⟩
          rw [pinned] at found
          cases found
        · obtain ⟨rest, search⟩ := Registry.searchOrder_eq_cons default
          simp only [candidates, asked, default, pinned, search]
          rfl

/-- The criteria and the catalog leave no choice of locations. -/
theorem Tries.unique
    {first second : List Location}
    {words otherWords : String}
    (left : criteria.Tries catalog first words)
    (right : criteria.Tries catalog second otherWords) :
    first = second ∧ words = otherWords := by
  cases left with
  | requested asked =>
    cases right <;> simp_all
  | nowhere unasked hosts =>
    have none := Registry.defaultLocation_eq_none_iff.2 hosts
    cases right <;> simp_all
  | bound unasked default wanted found boundTo unavailable =>
    cases right with
    | requested asked => simp_all
    | nowhere _ hosts => simp_all [Registry.defaultLocation_eq_none_iff.2 hosts]
    | bound => simp_all
    | everywhere _ otherDefault free =>
      rw [default] at otherDefault
      cases otherDefault
      rw [free _ _ _ wanted found boundTo] at unavailable
      cases unavailable
  | everywhere unasked default free =>
    cases right with
    | requested asked => simp_all
    | nowhere _ hosts => simp_all [Registry.defaultLocation_eq_none_iff.2 hosts]
    | bound _ otherDefault wanted found boundTo unavailable =>
      rw [default] at otherDefault
      cases otherDefault
      rw [free _ _ _ wanted found boundTo] at unavailable
      cases unavailable
    | everywhere => exact ⟨rfl, rfl⟩

/-! ## Outcomes -/

/-- A location is the first at which an image fits, and the image is the one chosen there. -/
def Decides
    (criteria : Criteria)
    (catalog : Catalog)
    (locations : List Location)
    (location : Location)
    (image : Image) :
    Prop :=
  ∃ before after, locations = before ++ location :: after ∧
    (∀ earlier ∈ before, criteria.Imageless catalog earlier) ∧
    criteria.imageAt catalog location = .ok image

/-- The template with an image at a location: the size is still to be found. -/
def templateWith
    (criteria : Criteria)
    (catalog : Catalog)
    (location : Location)
    (image : Image) :
    Except TemplateError Template := do
  let size ← criteria.sizeFor catalog image
  pure { image := image, size := size, location := location, options := criteria.options }

/-- Either some location decides, or no image fits anywhere. -/
theorem decides_or_imageless (locations : List Location) :
    (∃ location image, criteria.Decides catalog locations location image) ∨
      ∀ location ∈ locations, criteria.Imageless catalog location := by
  induction locations with
  | nil => exact Or.inr (by simp)
  | cons first rest inductionHypothesis =>
    cases found : criteria.imageAt catalog first with
    | ok image => exact Or.inl ⟨first, image, [], rest, rfl, by simp, found⟩
    | error error =>
      have imageless := ((imageAt_eq_error_iff first error).1 found).1
      rcases inductionHypothesis with
        ⟨location, image, before, after, rfl, skipped, chosen⟩ | none
      · refine Or.inl ⟨location, image, first :: before, after, rfl, ?_, chosen⟩
        exact List.forall_mem_cons.2 ⟨imageless, skipped⟩
      · exact Or.inr (List.forall_mem_cons.2 ⟨imageless, none⟩)

/-- Where an image decides at a location, the template is made of the two. Along the skipped
locations only the first miss changes, and it is not used in the end. -/
theorem resolveAmong_of_decides
    {locations : List Location}
    {location : Location}
    {image : Image}
    (decides : criteria.Decides catalog locations location image)
    (firstMiss : Option TemplateError) :
    criteria.resolveAmong catalog firstMiss locations =
      criteria.templateWith catalog location image := by
  obtain ⟨before, after, rfl, skipped, found⟩ := decides
  induction before generalizing firstMiss with
  | nil =>
    simp only [List.nil_append, resolveAmong, found]
    rfl
  | cons first before inductionHypothesis =>
    obtain ⟨imageless, others⟩ := List.forall_mem_cons.1 skipped
    have missed := (imageAt_eq_error_iff first _).2 ⟨imageless, rfl⟩
    simp only [List.cons_append, resolveAmong, missed]
    exact inductionHypothesis _ others

/-- Where no image fits, the first miss is reported. -/
theorem resolveAmong_of_imageless
    {locations : List Location}
    (imageless : ∀ location ∈ locations, criteria.Imageless catalog location)
    (firstMiss : TemplateError) :
    criteria.resolveAmong catalog (some firstMiss) locations = .error firstMiss := by
  induction locations with
  | nil => rfl
  | cons first rest inductionHypothesis =>
    obtain ⟨here, others⟩ := List.forall_mem_cons.1 imageless
    have missed := (imageAt_eq_error_iff first _).2 ⟨here, rfl⟩
    simp only [resolveAmong, missed]
    exact inductionHypothesis others

theorem orRefuse_of_decides
    {locations : List Location}
    {location : Location}
    {image : Image}
    (decides : criteria.Decides catalog locations location image)
    (words : String) :
    orRefuse locations words = .ok locations := by
  obtain ⟨before, after, rfl, _, _⟩ := decides
  exact if_neg (by simp)

theorem resolve_of_decides
    {locations : List Location}
    {words : String}
    {location : Location}
    {image : Image}
    (tried : criteria.candidates catalog = orRefuse locations words)
    (decides : criteria.Decides catalog locations location image) :
    criteria.resolve catalog = criteria.templateWith catalog location image := by
  rw [resolve, tried, orRefuse_of_decides decides]
  exact resolveAmong_of_decides decides none

theorem resolve_of_imageless
    {first : Location}
    {rest : List Location}
    (tried : criteria.candidates catalog = .ok (first :: rest))
    (imageless : ∀ location ∈ first :: rest, criteria.Imageless catalog location) :
    criteria.resolve catalog = .error (.noMatchingImage (criteria.describeImage first)) := by
  obtain ⟨here, others⟩ := List.forall_mem_cons.1 imageless
  have missed := (imageAt_eq_error_iff first _).2 ⟨here, rfl⟩
  rw [resolve, tried]
  change criteria.resolveAmong catalog none (first :: rest) = _
  simp only [resolveAmong, missed]
  exact resolveAmong_of_imageless others _

/-- What a template is when criteria select it among locations. -/
structure Selects (criteria : Criteria) (catalog : Catalog) (locations : List Location)
    (template : Template) : Prop where
  /-- The location is the first at which an image fits. -/
  first : ∃ before after, locations = before ++ template.location :: after ∧
    ∀ earlier ∈ before, criteria.Imageless catalog earlier
  offered : template.image ∈ catalog.images
  fits : criteria.ImageFits catalog template.location template.image
  size : criteria.SizeChosen catalog template.image template.size
  options : template.options = criteria.options

/-- Why criteria are refused when certain locations come into question. -/
inductive Refuses (criteria : Criteria) (catalog : Catalog) (words : String) :
    List Location → TemplateError → Prop where
  /-- No location comes into question. -/
  | noLocation : Refuses criteria catalog words [] (.noMatchingLocation words)
  /-- No image fits at any location; the first location is reported. -/
  | noImage {first : Location} {rest : List Location}
      (imageless : ∀ location ∈ first :: rest, criteria.Imageless catalog location) :
    Refuses criteria catalog words (first :: rest)
      (.noMatchingImage (criteria.describeImage first))
  /-- No size fits the image that is chosen at the first location at which an image fits. -/
  | noSize {locations : List Location} {location : Location} {image : Image}
      (decides : criteria.Decides catalog locations location image)
      (sizeless : criteria.Sizeless catalog image) :
    Refuses criteria catalog words locations (.noMatchingSize (criteria.describeSize image))

theorem selects_of_templateWith
    {locations : List Location}
    {location : Location}
    {image : Image}
    {template : Template}
    (decides : criteria.Decides catalog locations location image)
    (made : criteria.templateWith catalog location image = .ok template) :
    criteria.Selects catalog locations template := by
  obtain ⟨before, after, shape, skipped, found⟩ := decides
  obtain ⟨size, sized, rest⟩ := Results.exists_of_bind_eq_ok made
  cases rest
  obtain ⟨offered, fits⟩ := (mem_imagesAt_iff location image).1 (mem_of_imageAt found)
  exact ⟨⟨before, after, shape, skipped⟩, offered, fits, sizeChosen_of_sizeFor sized, rfl⟩

/-- No template can be made exactly when no size fits the image. -/
theorem templateWith_eq_error_iff
    (location : Location)
    (image : Image)
    (error : TemplateError) :
    criteria.templateWith catalog location image = .error error ↔
      criteria.Sizeless catalog image ∧
        error = .noMatchingSize (criteria.describeSize image) := by
  rw [← sizeFor_eq_error_iff, templateWith]
  cases criteria.sizeFor catalog image with
  | error failure =>
    constructor <;>
      · intro failed
        cases failed
        rfl
  | ok size =>
    constructor <;>
      · intro failed
        cases failed

/-- A template that is found was made where its location decided. -/
theorem decides_of_resolve
    {locations : List Location}
    {words : String}
    {template : Template}
    (tried : criteria.candidates catalog = orRefuse locations words)
    (resolved : criteria.resolve catalog = .ok template) :
    criteria.Decides catalog locations template.location template.image ∧
      criteria.templateWith catalog template.location template.image = .ok template := by
  cases locations with
  | nil =>
    rw [resolve, tried] at resolved
    cases resolved
  | cons first rest =>
    rcases decides_or_imageless (first :: rest) with ⟨location, image, decides⟩ | imageless
    · rw [resolve_of_decides tried decides] at resolved
      obtain ⟨size, _, made⟩ := Results.exists_of_bind_eq_ok resolved
      cases made
      exact ⟨decides, resolved⟩
    · rw [resolve_of_imageless tried imageless] at resolved
      cases resolved

theorem selects_of_resolve
    {locations : List Location}
    {words : String}
    {template : Template}
    (tried : criteria.candidates catalog = orRefuse locations words)
    (resolved : criteria.resolve catalog = .ok template) :
    criteria.Selects catalog locations template := by
  obtain ⟨decides, made⟩ := decides_of_resolve tried resolved
  exact selects_of_templateWith decides made

/-- Criteria are refused exactly with the errors that say why. -/
theorem resolve_eq_error_iff
    {locations : List Location}
    {words : String}
    (tried : criteria.candidates catalog = orRefuse locations words)
    (error : TemplateError) :
    criteria.resolve catalog = .error error ↔ criteria.Refuses catalog words locations error := by
  constructor
  · intro failed
    cases locations with
    | nil =>
      rw [resolve, tried] at failed
      cases failed
      exact Refuses.noLocation
    | cons first rest =>
      rcases decides_or_imageless (first :: rest) with ⟨location, image, decides⟩ | imageless
      · rw [resolve_of_decides tried decides, templateWith_eq_error_iff] at failed
        obtain ⟨sizeless, rfl⟩ := failed
        exact Refuses.noSize decides sizeless
      · rw [resolve_of_imageless tried imageless] at failed
        cases failed
        exact Refuses.noImage imageless
  · intro refused
    cases refused with
    | noLocation =>
      rw [resolve, tried]
      rfl
    | noImage imageless => exact resolve_of_imageless tried imageless
    | noSize decides sizeless =>
      rw [resolve_of_decides tried decides, templateWith_eq_error_iff]
      exact ⟨sizeless, rfl⟩

/-- Criteria and catalog determine which locations come into question. A template that is found is
selected among them, and criteria are refused exactly for the causes that `Refuses` lists. -/
theorem resolve_selects_or_refuses
    (criteria : Criteria)
    (catalog : Catalog) :
    ∃ locations words, criteria.Tries catalog locations words ∧
      (∀ others otherWords, criteria.Tries catalog others otherWords →
        others = locations ∧ otherWords = words) ∧
      (∀ template, criteria.resolve catalog = .ok template →
        criteria.Selects catalog locations template) ∧
      ∀ error, criteria.resolve catalog = .error error ↔
        criteria.Refuses catalog words locations error := by
  obtain ⟨locations, words, tries, tried⟩ := exists_tries criteria catalog
  exact ⟨locations, words, tries, fun _ _ other => other.unique tries,
    fun _ resolved => selects_of_resolve tried resolved, resolve_eq_error_iff tried⟩

end Criteria

end Fleet
