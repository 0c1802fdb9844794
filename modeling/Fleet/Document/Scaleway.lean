import Fleet.Document.Catalog
import Fleet.Document.Config
import Fleet.Document.Node
import Fleet.Json.Order
import Fleet.Json.Printer
import Fleet.Rehearsal.Wire
import Fleet.Scaleway.Backend

/-!
# Documents of the interface

Errors, servers and offers of the interface, and the arrangements and the record of a rehearsed one.
-/

namespace Fleet

namespace ScalewayError

/-- The name of the kind of error. -/
def name : ScalewayError → String
  | config _ => "Config"
  | api _ _ => "Api"
  | http _ _ _ _ => "Http"
  | transport _ => "Transport"
  | decode _ _ => "Decode"
  | notManaged _ => "NotManaged"
  | powerOnNotAllowed _ _ => "PowerOnNotAllowed"

/-- The error of a document. -/
def ofJson (json : Json) : ScalewayError :=
  let text (name : String) : String := json.textAt name ""
  match text "variant" with
  | "Config" => config (text "message")
  | "Api" | "SdkApi" => api (text "etype") (text "message")
  | "Http" => http "GET" (text "path") (json.natAt "status" 0) (text "body")
  | "Transport" => transport (text "message")
  | "SdkJson" => transport "JSON"
  | "Decode" => decode "server" (text "message")
  | "NotManaged" => notManaged (text "id")
  | _ => powerOnNotAllowed (text "id") (text "state")

/-- The document of the error. -/
def toJson (error : ScalewayError) : Json :=
  Json.failure error.name error.message [("kind", .text error.kind.name)]

end ScalewayError

namespace Scaleway

/-- The document that says that a body does not hold what it should. -/
def undecodable : Json :=
  .object [("error", .text "Decode")]

/-- The login in a document, if there is one. -/
def loginOf (json : Json) : Option Credentials :=
  (json.at? "credentials").map Credentials.ofJson

/-- The document of a server in a list. -/
def Server.entryToJson (login : Option Credentials) (server : Server) : Json :=
  .object [("batch_tag", Json.ofText? server.batch),
    ("node", Json.maybe Node.toJson (server.toNode login))]

/-- The document of a single server. -/
def Server.detailToJson (login : Option Credentials) (server : Server) : Json :=
  let node := server.toNode login
  .object [("node", Json.maybe Node.toJson node),
    ("allowed_actions", Json.texts server.allowedActions),
    ("invariants", Json.maybe (fun node => Json.result NodeError.toJson Json.done
      (Node.checkInvariants node)) node)]

/-- The document of products as sizes. -/
def Product.sizesToJson (products : Table Product) : Json :=
  .object [("sizes", .list (products.entries.map fun (name, product) =>
    (product.toSize name).toJson))]

/-- The document of the locations of zones, and whether they form a hierarchy. -/
def zonesToJson (zones : List String) : Json :=
  let locations := locationsFor zones
  .object [("locations", .list (locations.map Location.toJson)),
    ("registry", Json.result LocationError.toJson (fun _ => .text "valid")
      (Service.registryOf locations))]

/-- The image of a document that tells only what matters of a record. -/
def imageToJson (json : Json) (zone : String) : Json :=
  let text (name : String) : String := json.textAt name ""
  let record : ImageRecord :=
    { id := text "id", name := text "name", architecture := text "arch",
      creationDate := text "creation_date", state := text "state" }
  Json.maybe Image.toJson (record.toImage zone)

/-- The document of a backend with a valid configuration. -/
def backendToJson (config : ScalewayConfig) : Json :=
  .object [("provider", .text providerName), ("zone", .text config.zone),
    ("login", .text Backend.loginAccount),
    ("locations", .list ((locationsFor [config.zone]).map Location.toJson))]

end Scaleway

namespace Rehearsal

open Scaleway (Reply Request)

/-- A prepared reply from a document. -/
def replyOf (json : Json) : Reply :=
  if json.boolAt "refused" false then
    .refused
  else
    let body := match json.field? "json" with
      | some document => document.ordered.render
      | none => json.textAt "text" ""
    .answered (json.natAt "status" 200) body

/-- The routes of a document. -/
def Routes.ofJson (json : Json) : Routes :=
  { replies := Table.ofList (json.asFields.map fun (route, replies) =>
      (route, replies.asList.map replyOf)) }

/-- The document of a request. -/
def requestToJson (request : Request) : Json :=
  .object [("zone", .text request.zone), ("token", .text request.token),
    ("query", .list (request.query.map fun (name, value) => Json.texts [name, value])),
    ("body", request.body.getD .null)]

/-- The document of the requests made, by route. -/
def Routes.requestsToJson (routes : Routes) : Json :=
  .object (routes.requests.entries.map fun (route, requests) =>
    (route, .list (requests.map requestToJson)))

end Rehearsal

end Fleet
