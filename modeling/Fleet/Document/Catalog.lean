import Fleet.Json.Fields
import Fleet.Memory.Catalog

/-!
# Documents of catalogs

Locations, images, sizes and whole catalogs. An absent catalog stands for the one that accounts in
memory offer; an absent family of an image is recognised from the image's name.
-/

namespace Fleet

/-- The location of a document. -/
def Location.ofJson (json : Json) : Location :=
  { id := json.textAt "id" "", scope := (Scope.ofName? (json.textAt "scope" "")).getD .zone,
    description := json.textAt "description" "", parent := json.textAt? "parent" }

/-- The document of a location. -/
def Location.toJson (location : Location) : Json :=
  .object [("id", .text location.id), ("scope", .text location.scope.name),
    ("description", .text location.description), ("parent", Json.ofText? location.parent)]

/-- The name of the kind of error. -/
def LocationError.name : LocationError → String
  | unsupportedScope _ => "UnsupportedScope"
  | selfParent _ => "SelfParent"
  | duplicate _ => "Duplicate"
  | unknown _ => "Unknown"
  | danglingParent _ _ => "DanglingParent"
  | missingParent _ _ => "MissingParent"
  | notAProvider _ _ => "NotAProvider"
  | cycle _ => "Cycle"

/-- The document of the error. -/
def LocationError.toJson (error : LocationError) : Json :=
  Json.failure error.name error.message []

/-- The image of a document. -/
def Image.ofJson (json : Json) : Image :=
  let name := json.textAt "name" ""
  { id := json.textAt "id" ""
    name := name
    family := ((json.textAt? "os_family").bind SystemFamily.ofName?).getD (SystemFamily.detect name)
    systemDescription := json.textAt "os_description" name
    architecture := json.textAt "architecture" "x86_64"
    version := json.textAt "version" ""
    location := json.textAt? "location" }

/-- The document of an image. -/
def Image.toJson (image : Image) : Json :=
  .object [("id", .text image.id), ("name", .text image.name),
    ("os_family", .text image.family.name), ("os_description", .text image.systemDescription),
    ("architecture", .text image.architecture), ("version", .text image.version),
    ("location", Json.ofText? image.location)]

/-- The size of a document. -/
def Size.ofJson (json : Json) : Size :=
  { id := json.textAt "id" "", cores := json.natAt "cores" 1, memory := json.natAt "ram_mb" 1024,
    disk := json.natAt "disk_gb" 10, architectures := (json.itemsAt "arches").map Json.asText }

/-- The document of a size. -/
def Size.toJson (size : Size) : Json :=
  .object [("id", .text size.id), ("cores", Json.ofNat size.cores),
    ("ram_mb", Json.ofNat size.memory), ("disk_gb", Json.ofNat size.disk),
    ("arches", Json.texts size.architectures)]

/-- The catalog of a document, if its locations can be registered. -/
def Catalog.ofJson (json : Json) : Except LocationError Catalog :=
  match json with
  | .object _ => do
    let locations ← Registry.ofList ((json.itemsAt "locations").map Location.ofJson)
    pure
      { images := (json.itemsAt "images").map Image.ofJson
        sizes := (json.itemsAt "sizes").map Size.ofJson
        locations := locations }
  | _ => .ok Memory.defaultCatalog

/-- The document of a catalog. -/
def Catalog.toJson (catalog : Catalog) : Json :=
  .object [("images", .list (catalog.images.map Image.toJson)),
    ("sizes", .list (catalog.sizes.map Size.toJson)),
    ("locations", .list (catalog.locations.toList.map Location.toJson))]

end Fleet
