import Fleet.Location.Registry
import Fleet.Template.System

/-!
# Catalogs

What a provider offers: images to boot, sizes of hardware, and locations. An image that is bound to
a location can be booted there and anywhere below; an image that is bound to none, everywhere.
-/

namespace Fleet

/-- A bootable image. -/
structure Image where
  id : ImageId
  /-- The name that the provider displays. -/
  name : String
  family : SystemFamily
  /-- A description of the operating system. -/
  systemDescription : String
  /-- The processor architecture, for example `x86_64`. -/
  architecture : String
  version : String
  /-- The location that the image is bound to, if it is bound to one. -/
  location : Option LocationId
  deriving DecidableEq, Repr

/-- A size of hardware. -/
structure Size where
  id : SizeId
  /-- The number of virtual processors. -/
  cores : Nat
  /-- The memory in megabytes. -/
  memory : Nat
  /-- The root disk in gigabytes. -/
  disk : Nat
  /-- The architectures that run on this size; none means all of them. -/
  architectures : List String
  deriving DecidableEq, Repr

namespace Size

/-- Whether images of an architecture run on this size. -/
def supports (size : Size) (architecture : String) : Bool :=
  size.architectures.isEmpty || size.architectures.any (Text.sameWord · architecture)

/-- The measures by which sizes are compared. -/
def capacity (size : Size) : List Nat :=
  [size.cores, size.memory, size.disk]

end Size

/-- The offers of a provider at one moment. -/
structure Catalog where
  images : List Image
  sizes : List Size
  locations : Registry
  deriving DecidableEq, Inhabited

namespace Catalog

/-- Whether an image can be booted in a location. -/
def isAvailable (catalog : Catalog) (image : Image) (location : LocationId) : Bool :=
  match image.location with
  | none => true
  | some bound =>
    match catalog.locations.isSameOrChild location bound with
    | .ok within => within
    | .error _ => false

end Catalog

end Fleet
