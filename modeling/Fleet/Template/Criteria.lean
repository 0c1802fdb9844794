import Fleet.Template.Basic
import Fleet.Template.Version

/-!
# Resolving criteria

Criteria narrow a catalog down to one template. The candidate locations are tried in order; the
first one in which some image satisfies the criteria decides, and there the newest image wins, of
equally new ones the one with the smallest name. The size is then the smallest, or the largest, of
those that fit the image and the minimums. The same criteria on the same catalog always give the
same template.
-/

namespace Fleet

/-- Which end of the fitting sizes is taken. -/
inductive SizePreference where
  | smallest
  | fastest
  deriving DecidableEq, Repr

/-- What a template has to satisfy. -/
structure Criteria where
  imageId : Option ImageId := none
  family : Option SystemFamily := none
  /-- A part of the image's name. -/
  imageName : Option String := none
  architecture : Option String := none
  sizeId : Option SizeId := none
  minCores : Option Nat := none
  minMemory : Option Nat := none
  preference : SizePreference := .smallest
  locationId : Option LocationId := none
  options : TemplateOptions := {}
  deriving DecidableEq, Repr

/-- Why criteria cannot be resolved; the criteria at fault are given in words. -/
inductive TemplateError where
  | noMatchingImage (criteria : String)
  | noMatchingSize (criteria : String)
  | noMatchingLocation (criteria : String)
  deriving DecidableEq, Repr

/-- The wording of the error. -/
def TemplateError.message : TemplateError → String
  | noMatchingImage criteria => s!"no image matches {criteria}"
  | noMatchingSize criteria => s!"no size matches {criteria}"
  | noMatchingLocation criteria => s!"no location matches {criteria}"

namespace Criteria

/-- Parts that are there, in words and separated by commas. -/
def describeParts (parts : List (Option String)) : String :=
  ", ".intercalate (parts.filterMap id)

/-- The criteria for an image at a location, in words. -/
def describeImage (criteria : Criteria) (location : Location) : String :=
  describeParts
    [some s!"location={location.id}",
      criteria.imageId.map fun id => s!"id={id}",
      criteria.family.map fun family => s!"os={family.name}",
      criteria.imageName.map fun fragment => s!"name~{fragment}",
      criteria.architecture.map fun architecture => s!"arch={architecture}"]

/-- The criteria for a size that runs an image, in words. -/
def describeSize (criteria : Criteria) (image : Image) : String :=
  describeParts
    [some s!"arch={image.architecture}",
      criteria.sizeId.map fun id => s!"id={id}",
      criteria.minCores.map fun cores => s!"cores>={cores}",
      criteria.minMemory.map fun memory => s!"ram>={memory}MB"]

/-- The error that there is no location at all. -/
def noLocation : TemplateError :=
  .noMatchingLocation "default (catalog has no locations)"

/-- The registered location with a name, or the error with the given words. -/
def onlyLocation
    (catalog : Catalog)
    (id : LocationId)
    (words : String) :
    Except TemplateError (List Location) :=
  match catalog.locations.get? id with
  | some location => .ok [location]
  | none => .error (.noMatchingLocation words)

/-- The requested image, when it is bound to a location and cannot be booted in the default one. -/
def boundImage
    (criteria : Criteria)
    (catalog : Catalog)
    (preferred : Location) :
    Option (Image × LocationId) := do
  let id ← criteria.imageId
  let image ← catalog.images.find? fun image => image.id == id
  let bound ← image.location
  if catalog.isAvailable image preferred.id then none else some (image, bound)

/-- The locations to try, in order. -/
def candidates (criteria : Criteria) (catalog : Catalog) : Except TemplateError (List Location) :=
  match criteria.locationId with
  | some id => onlyLocation catalog id s!"id={id}"
  | none =>
    match catalog.locations.defaultLocation with
    | none => .error noLocation
    | some preferred =>
      match criteria.boundImage catalog preferred with
      | some (image, bound) =>
        onlyLocation catalog bound s!"location {bound} of image {image.id}"
      | none => .ok catalog.locations.searchOrder

/-- Whether an image satisfies the criteria, wherever it may be booted. -/
def acceptsImage (criteria : Criteria) (image : Image) : Bool :=
  criteria.imageId.all (image.id == ·) &&
    criteria.family.all (image.family == ·) &&
    criteria.imageName.all (fun fragment =>
      Text.containsText (Text.lowerCase image.name) (Text.lowerCase fragment)) &&
    criteria.architecture.all (Text.sameWord image.architecture ·)

/-- The images that satisfy the criteria at a location. -/
def imagesAt (criteria : Criteria) (catalog : Catalog) (location : Location) : List Image :=
  catalog.images.filter fun image =>
    criteria.acceptsImage image && catalog.isAvailable image location.id

/-- The order in which images are preferred: newer ones, then smaller names. -/
def imageOrder (left right : Image) : Ordering :=
  (Version.order left.version right.version).then (compare right.id left.id)

/-- The last greatest item of a list, starting from an item to beat. -/
def greatestFrom {α : Type} (order : α → α → Ordering) (best : α) : List α → α
  | [] => best
  | item :: rest => greatestFrom order (if order best item = .gt then best else item) rest

/-- The last greatest item of a list. -/
def greatest? {α : Type} (order : α → α → Ordering) : List α → Option α
  | [] => none
  | item :: rest => some (greatestFrom order item rest)

/-- The first smallest item of a list, starting from an item to beat. -/
def leastFrom {α : Type} (order : α → α → Ordering) (best : α) : List α → α
  | [] => best
  | item :: rest => leastFrom order (if order best item = .gt then item else best) rest

/-- The first smallest item of a list. -/
def least? {α : Type} (order : α → α → Ordering) : List α → Option α
  | [] => none
  | item :: rest => some (leastFrom order item rest)

/-- The image to boot at a location. -/
def imageAt
    (criteria : Criteria)
    (catalog : Catalog)
    (location : Location) :
    Except TemplateError Image :=
  match greatest? imageOrder (criteria.imagesAt catalog location) with
  | some image => .ok image
  | none => .error (.noMatchingImage (criteria.describeImage location))

/-- Whether a size satisfies the criteria and runs the image. -/
def acceptsSize (criteria : Criteria) (image : Image) (size : Size) : Bool :=
  size.supports image.architecture &&
    criteria.sizeId.all (size.id == ·) &&
    criteria.minCores.all (· ≤ size.cores) &&
    criteria.minMemory.all (· ≤ size.memory)

/-- The sizes that satisfy the criteria and run the image. -/
def sizesFor (criteria : Criteria) (catalog : Catalog) (image : Image) : List Size :=
  catalog.sizes.filter (criteria.acceptsSize image)

/-- The order of sizes in which the smallest is the first choice. -/
def smallOrder (left right : Size) : Ordering :=
  (compare left.capacity right.capacity).then (compare left.id right.id)

/-- The order of sizes in which the greatest is the fastest choice. -/
def fastOrder (left right : Size) : Ordering :=
  (compare left.capacity right.capacity).then (compare right.id left.id)

/-- The size for an image. -/
def sizeFor
    (criteria : Criteria)
    (catalog : Catalog)
    (image : Image) :
    Except TemplateError Size :=
  let fitting := criteria.sizesFor catalog image
  let chosen := match criteria.preference with
    | .smallest => least? smallOrder fitting
    | .fastest => greatest? fastOrder fitting
  match chosen with
  | some size => .ok size
  | none => .error (.noMatchingSize (criteria.describeSize image))

/-- Try locations in order until one has an image; then the size decides. `firstMiss` is the error
for when none has. -/
def resolveAmong
    (criteria : Criteria)
    (catalog : Catalog)
    (firstMiss : Option TemplateError) :
    List Location → Except TemplateError Template
  | [] => .error (firstMiss.getD noLocation)
  | location :: rest =>
    match criteria.imageAt catalog location with
    | .ok image => do
      let size ← criteria.sizeFor catalog image
      pure { image := image, size := size, location := location, options := criteria.options }
    | .error miss => criteria.resolveAmong catalog (some (firstMiss.getD miss)) rest

/-- The template that criteria select from a catalog. -/
def resolve (criteria : Criteria) (catalog : Catalog) : Except TemplateError Template := do
  criteria.resolveAmong catalog none (← criteria.candidates catalog)

end Criteria

end Fleet
