import Fleet.Json.Parser
import Fleet.Scaleway.Config
import Fleet.Scaleway.Payload

/-!
# The interface over exchanges

The calls of the interface as exchanges of requests and replies. Servers, pages of servers and
products are asked for directly: any status but a success is an error of its own, and so is a body
that does not hold the resource. The other calls follow the interface's own client: only a status of
the four hundreds is looked at for an error document, and whatever else goes wrong counts as a
failed transport.
-/

namespace Fleet.Scaleway

/-- What a request wants done with its path. -/
inductive Method where
  | get
  | post
  | delete
  deriving DecidableEq, Repr

/-- The name of a method. -/
def Method.name : Method → String
  | get => "GET"
  | post => "POST"
  | delete => "DELETE"

/-- A request to the interface of a zone. -/
structure Request where
  method : Method
  /-- The path below the zone. -/
  path : String
  query : List (String × String) := []
  body : Option Json := none
  zone : String
  /-- The secret that the request carries. -/
  token : String

/-- The method and path of a request. -/
def Request.route (request : Request) : String :=
  request.method.name ++ " " ++ request.path

/-- What comes back. -/
inductive Reply where
  /-- No connection. -/
  | refused
  /-- A status and a body. -/
  | answered (status : Nat) (body : String)
  deriving DecidableEq, Repr

/-- A way to send requests. -/
abbrev Exchange (σ : Type) := Request → Activity σ Reply

namespace Reply

/-- The resource in a reply to a direct request. -/
def resource
    {α : Type}
    (path resource : String)
    (decode : Json → Option α) :
    Reply → Except ScalewayError α
  | refused => .error (.transport "connection refused")
  | answered status body =>
    if 200 ≤ status && status ≤ 299 then
      match (Json.ofText body).bind decode with
      | some value => .ok value
      | none => .error (.decode resource "unexpected body")
    else
      .error (.http Method.get.name path status body)

/-- The error in the body of a reply that refuses a request. -/
def refusal (body : String) : ScalewayError :=
  ((Json.ofText body).bind errorOf?).getD (.transport "unexpected error document")

/-- The body of a reply to the interface's own client. -/
def body : Reply → Except ScalewayError String
  | refused => .error (.transport "connection refused")
  | answered status body =>
    if 400 ≤ status && status ≤ 499 then .error (refusal body)
    else if 500 ≤ status && status ≤ 599 then .error (.transport s!"status {status}")
    else .ok body

/-- The value in the body of a reply to the interface's own client. -/
def value {α : Type} (decode : Json → Option α) (reply : Reply) : Except ScalewayError α := do
  match (Json.ofText (← reply.body)).bind decode with
  | some value => pure value
  | none => .error (.transport "unexpected body")

/-- The success of a reply whose body does not matter. -/
def success (reply : Reply) : Except ScalewayError Unit := do
  let _ ← reply.body
  pure ()

end Reply

/-- The path of a server. -/
def serverPath (id : String) : String :=
  "servers/" ++ id

/-- The calls of the interface with a configuration, over a way to send requests. -/
def Api.overExchange {σ : Type} (config : ScalewayConfig) (exchange : Exchange σ) : Api σ where
  createServer order := do
    let reply ← exchange
      { method := .post, path := "servers", body := some order.toJson, zone := config.zone,
        token := config.secretKey }
    pure (reply.value Created.ofEnvelope?)
  act id action := do
    let reply ← exchange
      { method := .post, path := serverPath id ++ "/action", body := some action.toJson,
        zone := config.zone, token := config.secretKey }
    pure reply.success
  deleteServer id := do
    let reply ← exchange
      { method := .delete, path := serverPath id, zone := config.zone, token := config.secretKey }
    pure reply.success
  server id := do
    let reply ← exchange
      { method := .get, path := serverPath id, zone := config.zone, token := config.secretKey }
    pure (reply.resource (serverPath id) "server" Server.ofEnvelope?)
  servers label page := do
    let reply ← exchange
      { method := .get, path := "servers", query := pageQuery label page, zone := config.zone,
        token := config.secretKey }
    pure (reply.resource "servers" "server list" Server.ofPage?)
  images query := do
    let reply ← exchange
      { method := .get, path := "images", query := query.toPairs, zone := config.zone,
        token := config.secretKey }
    pure (reply.value ImageRecord.ofList?)
  products := do
    let reply ← exchange
      { method := .get, path := "products/servers", zone := config.zone,
        token := config.secretKey }
    pure (reply.resource "products/servers" "server products" Product.ofList?)

end Fleet.Scaleway
