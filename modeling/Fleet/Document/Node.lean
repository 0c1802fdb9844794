import Fleet.Address.Text
import Fleet.Json.Fields
import Fleet.Node.Basic

/-!
# Documents of nodes

Records of nodes with their addresses and credentials. Addresses are written in ascending order;
texts that write no address are left out when a record is read.
-/

namespace Fleet

/-- The credentials of a document. -/
def Credentials.ofJson (json : Json) : Credentials :=
  { account := json.textAt "account" "", key := json.textAt "key" "" }

/-- The document of credentials. -/
def Credentials.toJson (credentials : Credentials) : Json :=
  .object [("account", .text credentials.account), ("key", .text credentials.key)]

/-- The state with a name. -/
def NodeState.ofName : String → NodeState
  | "PENDING" => pending
  | "RUNNING" => running
  | "TERMINATED" => terminated
  | "ERROR" => error
  | _ => unknown

/-- The addresses of a list of documents. -/
def Address.listOfJson (items : List Json) : List Address :=
  Address.sorted (items.filterMap fun json => Address.ofText? json.asText)

/-- The document of an address. -/
def Address.toJson (address : Address) : Json :=
  .text address.toText

/-- The document of a table of texts. -/
def Table.textsToJson (table : Table String) : Json :=
  .object (table.entries.map fun (key, value) => (key, .text value))

/-- The record of a document. -/
def Node.ofJson (json : Json) : Node :=
  { id := json.textAt "id" ""
    tag := json.textAt "tag" "web"
    name := json.textAt "name" ""
    state := NodeState.ofName (json.textAt "state" "RUNNING")
    image := json.textAt "image" "img"
    location := json.textAt "location" "zone"
    publicAddresses := Address.listOfJson (json.itemsAt "public")
    privateAddresses := Address.listOfJson (json.itemsAt "private")
    credentials := (json.at? "credentials").map Credentials.ofJson
    metadata := Table.ofList ((json.valueAt "metadata").asFields.map fun (key, value) =>
      (key, value.asText)) }

/-- The document of a record. -/
def Node.toJson (node : Node) : Json :=
  .object [("id", .text node.id), ("tag", .text node.tag), ("name", .text node.name),
    ("state", .text node.state.name), ("image", .text node.image),
    ("location", .text node.location),
    ("public", .list (node.publicAddresses.map Address.toJson)),
    ("private", .list (node.privateAddresses.map Address.toJson)),
    ("credentials", Json.maybe Credentials.toJson node.credentials),
    ("metadata", node.metadata.textsToJson)]

/-- The document of a list of records. -/
def Node.listToJson (nodes : List Node) : Json :=
  .list (nodes.map Node.toJson)

/-- The names and states of a list of records. -/
def Node.statesToJson (nodes : List Node) : Json :=
  .list (nodes.map fun node => .list [.text node.id, .text node.state.name])

/-- The name of the kind of error. -/
def NodeError.name : NodeError → String
  | unreachable _ => "Unreachable"
  | incompleteCredentials _ => "IncompleteCredentials"
  | illegalTransition _ _ _ => "IllegalTransition"

/-- The document of the error. -/
def NodeError.toJson (error : NodeError) : Json :=
  Json.failure error.name error.message []

end Fleet
