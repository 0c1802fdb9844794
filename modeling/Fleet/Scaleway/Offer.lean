import Fleet.Template.Catalog
import Fleet.Text.Blank

/-!
# Offers

Images, products and zones as the interface describes them, and the images, sizes and locations that
they are. Only available images count. The version of an image is the first word of its name that
starts with a digit, else the date of its creation. A zone belongs to the region that its name
starts with, and every region to the one provider.
-/

namespace Fleet.Scaleway

/-- The name of the provider. -/
def providerName : String := "scaleway"

/-- An image as it is listed. -/
structure ImageRecord where
  id : String
  name : String
  architecture : String
  creationDate : String
  state : String
  deriving DecidableEq, Repr

/-- A product as it is listed. -/
structure Product where
  /-- The number of processors. -/
  processors : Nat
  /-- The memory in bytes. -/
  memory : Nat
  architecture : Option String := none
  /-- The largest volume in bytes, when volumes are limited. -/
  largestVolume : Option Nat := none
  deriving DecidableEq, Repr

/-- The bytes of a megabyte of memory. -/
def bytesPerMegabyte : Nat := 1048576

/-- The bytes of a gigabyte of disk. -/
def bytesPerGigabyte : Nat := 1000000000

/-- Whether a word starts with a digit. -/
def startsWithDigit (word : String) : Bool :=
  word.toList.head?.any Char.isDigit

/-- The version of an image. -/
def imageVersion (name creationDate : String) : String :=
  ((Text.words name).find? startsWithDigit).getD creationDate

/-- The image of a record in a zone, if it is available. -/
def ImageRecord.toImage (record : ImageRecord) (zone : String) : Option Image :=
  if record.state = "available" then
    some
      { id := record.id
        name := record.name
        family := SystemFamily.detect record.name
        systemDescription := record.name
        architecture := record.architecture
        version := imageVersion record.name record.creationDate
        location := some zone }
  else
    none

/-- The size of a product with a name. -/
def Product.toSize (product : Product) (name : String) : Size :=
  { id := name
    cores := product.processors
    memory := product.memory / bytesPerMegabyte
    disk := product.largestVolume.getD 0 / bytesPerGigabyte
    architectures := product.architecture.toList }

/-- The region of a zone: what stands before the last hyphen, when only digits follow it. -/
def regionOf (zone : String) : String :=
  match Text.cutAtLast '-' zone.toList with
  | some (region, index) =>
    if !region.isEmpty && index.all Char.isDigit then String.ofList region else zone
  | none => zone

/-- The location of the provider. -/
def providerLocation : Location :=
  Location.root providerName "Scaleway"

/-- The location of a region. -/
def regionLocation (region : String) : Location :=
  Location.childOf providerLocation region .region region

/-- The location of a zone. -/
def zoneLocation (zone : String) : Location :=
  Location.childOf (regionLocation (regionOf zone)) zone .zone zone

/-- The locations that zones need: the provider, the regions by name, and the zones as they come. -/
def locationsFor (zones : List String) : List Location :=
  let regions := Table.ofList (zones.map fun zone => (regionOf zone, ()))
  [providerLocation] ++ regions.keys.map regionLocation ++ zones.map zoneLocation

end Fleet.Scaleway
