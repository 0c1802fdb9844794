import Fleet.Table
import Fleet.Template.Basic
import Fleet.Text.Blank
import Fleet.Text.Search

/-!
# Labels of servers

Everything that has to be known of a node beyond its server is kept in the labels of the server: the
batch it belongs to, the public key that may log in, and its descriptions. A server belongs to the
batch of its first batch label. Of several descriptions of one name the last counts.
-/

namespace Fleet.Scaleway

/-- What a batch label starts with. -/
def batchLead : String := "cumulus-tag="

/-- What the label of a public key starts with. -/
def keyLead : String := "AUTHORIZED_KEY="

/-- What the label of a description starts with. -/
def descriptionLead : String := "cumulus-meta:"

/-- The label of a batch. -/
def batchLabel (tag : String) : String :=
  batchLead ++ tag

/-- The label of a public key, in which underscores stand for spaces. -/
def keyLabel (publicKey : String) : String :=
  keyLead ++ String.ofList ((Text.trim publicKey).toList.map fun character =>
    if character = ' ' then '_' else character)

/-- The label of a description. -/
def descriptionLabel (name value : String) : String :=
  descriptionLead ++ name ++ "=" ++ value

/-- The labels of a server that is made for a batch from a template. -/
def labelsFor (tag : String) (template : Template) : List String :=
  [batchLabel tag] ++ template.options.publicKey.toList.map keyLabel ++
    template.metadata.entries.map fun (name, value) => descriptionLabel name value

/-- The batch of the first batch label. -/
def batchOf (labels : List String) : Option String :=
  labels.findSome? (Text.textAfter batchLead)

/-- The description that a label holds. -/
def descriptionOf (label : String) : Option (String × String) := do
  let entry ← Text.textAfter descriptionLead label
  let (name, value) ← Text.cutAtFirst '=' entry.toList
  pure (String.ofList name, String.ofList value)

/-- The descriptions in labels. -/
def descriptionsOf (labels : List String) : Table String :=
  Table.ofList (labels.filterMap descriptionOf)

end Fleet.Scaleway
