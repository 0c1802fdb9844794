import Fleet.Template.Catalog
import Fleet.Template.Options

/-!
# Templates

A template says what a node is made from: an image, a size, a location, and options.
-/

namespace Fleet

/-- What a node is made from. -/
structure Template where
  image : Image
  size : Size
  location : Location
  options : TemplateOptions
  deriving DecidableEq

namespace Template

/-- The descriptions to attach to a node: nothing, unless the options ask for them. -/
def descriptions (template : Template) : List (String × String) :=
  if template.options.includesMetadata then
    [("image", template.image.id), ("location", template.location.id),
      ("os", template.image.family.name), ("size", template.size.id)]
  else
    []

/-- The descriptions as a table. -/
def metadata (template : Template) : Table String :=
  Table.ofList template.descriptions

end Template

end Fleet
