import Fleet.Document.Catalog
import Fleet.Document.Node
import Fleet.Document.Time
import Fleet.Template.Criteria

/-!
# Documents of templates

Options and criteria are given as lists of settings, each a list of a word and its arguments, which
are made in order. Templates are written in full. A template to use is either given by its parts or
by criteria that select it from a catalog.
-/

namespace Fleet

/-- The document of the wait for a port. -/
def PortWait.toJson (wait : PortWait) : Json :=
  .object [("port", Json.ofNat wait.port), ("timeout", Duration.toJson wait.timeout)]

/-- Options after one more setting. -/
def TemplateOptions.set (options : TemplateOptions) (setting : Json) : TemplateOptions :=
  let argument := (setting.item 1).asText
  match (setting.item 0).asText with
  | "install_private_key" => { options with privateKey := some argument }
  | "authorize_public_key" => { options with publicKey := some argument }
  | "run_script" => { options with script := some argument }
  | "override_credentials_with" =>
    { options with override := some { account := argument, key := (setting.item 2).asText } }
  | "block_on_port" =>
    { options with
      portWait := some
        { port := (setting.item 1).asNat, timeout := Duration.ofJson (setting.item 2) } }
  | "with_metadata" => { options with includesMetadata := true }
  | _ => options

/-- The options of a list of settings. -/
def TemplateOptions.ofJson (json : Json) : TemplateOptions :=
  json.asList.foldl TemplateOptions.set {}

/-- The fields of a document of options. -/
def TemplateOptions.fields (options : TemplateOptions) : List (String × Json) :=
  [("private_key", Json.ofText? options.privateKey),
    ("public_key", Json.ofText? options.publicKey), ("script", Json.ofText? options.script),
    ("override", Json.maybe Credentials.toJson options.override),
    ("port_wait", Json.maybe PortWait.toJson options.portWait),
    ("metadata", .bool options.includesMetadata)]

/-- Criteria after one more setting. -/
def Criteria.set (criteria : Criteria) (setting : Json) : Criteria :=
  let argument := setting.item 1
  match (setting.item 0).asText with
  | "image_id" => { criteria with imageId := some argument.asText }
  | "os_family" => { criteria with family := SystemFamily.ofName? argument.asText }
  | "image_name_matches" => { criteria with imageName := some argument.asText }
  | "architecture" => { criteria with architecture := some argument.asText }
  | "size_id" => { criteria with sizeId := some argument.asText }
  | "min_cores" => { criteria with minCores := some argument.asNat }
  | "min_ram" => { criteria with minMemory := some argument.asNat }
  | "location_id" => { criteria with locationId := some argument.asText }
  | "smallest" => { criteria with preference := .smallest }
  | "fastest" => { criteria with preference := .fastest }
  | "options" => { criteria with options := TemplateOptions.ofJson argument }
  | _ => criteria

/-- The criteria of a list of settings. -/
def Criteria.ofJson (json : Json) : Criteria :=
  json.asList.foldl Criteria.set {}

/-- The fields of a document of a template. -/
def Template.fields (template : Template) : List (String × Json) :=
  [("image", template.image.toJson), ("size", template.size.toJson),
    ("location", template.location.toJson), ("options", .object template.options.fields),
    ("descriptive_metadata", template.metadata.textsToJson)]

/-- The document of a template. -/
def Template.toJson (template : Template) : Json :=
  .object template.fields

/-- The name of the kind of error. -/
def TemplateError.name : TemplateError → String
  | noMatchingImage _ => "NoMatchingImage"
  | noMatchingSize _ => "NoMatchingSize"
  | noMatchingLocation _ => "NoMatchingLocation"

/-- The document of the error. -/
def TemplateError.toJson (error : TemplateError) : Json :=
  Json.failure error.name error.message []

/-- The template of a document: its parts, or what its criteria select from a catalog. Options that
are given replace those of the criteria. -/
def Template.ofJson (catalog : Catalog) (json : Json) : Except TemplateError Template :=
  let options := (json.at? "options").map TemplateOptions.ofJson
  match json.at? "image", json.at? "size", json.at? "location" with
  | some image, some size, some location =>
    .ok
      { image := Image.ofJson image
        size := Size.ofJson size
        location := Location.ofJson location
        options := options.getD {} }
  | _, _, _ => do
    let template ← (Criteria.ofJson (json.valueAt "criteria")).resolve catalog
    pure { template with options := options.getD template.options }

end Fleet
