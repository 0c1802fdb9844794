import Fleet.Provider.Basic
import Fleet.Scaleway.Api
import Fleet.Scaleway.Config

/-!
# The provider over the interface

A backend manages the servers of one zone through the calls of the interface. The interface does not
know the keys of logins, so the backend remembers the login of every server that it has made with a
key, until it destroys the server. A server is destroyed only if it carries a batch label.
-/

namespace Fleet.Scaleway

/-- A backend: the calls it makes, how it is configured, where it remembers logins, and how it finds
fresh names. -/
structure Backend (σ : Type) where
  api : Api σ
  config : ScalewayConfig
  logins : Part σ (Table Credentials)
  /-- A token that has not been given out before. -/
  freshToken : Activity σ String

namespace Backend

variable {σ : Type}

/-- The account for logins. -/
def loginAccount : String := "root"

/-- The largest number that a page can have. -/
def lastPage : Nat := 0x7FFFFFFF

/-- The login that is remembered for a server. -/
def loginFor (backend : Backend σ) (id : NodeId) : Activity σ (Option Credentials) :=
  Activity.observe fun _ world => (backend.logins.view world).find? id

/-- Remember the login of a server, or forget it. -/
def remember (backend : Backend σ) (id : NodeId) : Option Credentials → Activity σ Unit
  | some login => Activity.modify fun world =>
    backend.logins.update ((backend.logins.view world).insert id login) world
  | none => Activity.modify fun world =>
    backend.logins.update ((backend.logins.view world).erase id) world

/-- The nodes that servers are, with the logins that are remembered. -/
def nodesOf (logins : Table Credentials) (servers : List Server) : List Node :=
  servers.filterMap fun server => server.toNode (logins.find? server.id)

/-- The servers on so many pages from one page on; a page that is not full is the last. -/
def pagesFrom (api : Api σ) (label : Option String) :
    Nat → Nat → Activity σ (Except ScalewayError (List Server))
  | 0, _ => .hang
  | remaining + 1, page => do
    match ← api.servers label page with
    | .error error => pure (.error error)
    | .ok listed =>
      if listed.length < pageSize then
        pure (.ok listed)
      else
        match ← pagesFrom api label remaining (page + 1) with
        | .error error => pure (.error error)
        | .ok others => pure (.ok (listed ++ others))

/-- All servers, or those that the interface lists for a batch. -/
def allServers (backend : Backend σ) (tag : Option String) :
    Activity σ (Except ScalewayError (List Server)) :=
  pagesFrom backend.api (tag.map batchLabel) lastPage 1

/-- The nodes of the account, or those of a batch. -/
def list (backend : Backend σ) (tag : Option String) :
    Activity σ (Except ScalewayError (List Node)) := do
  match ← backend.allServers tag with
  | .error error => pure (.error error)
  | .ok servers =>
    Activity.observe fun _ world =>
      .ok ((nodesOf (backend.logins.view world) servers).filter fun node =>
        tag.all fun wanted => node.tag == wanted)

/-- Look a node up. -/
def get (backend : Backend σ) (id : NodeId) : Activity σ (Except ScalewayError Node) := do
  match ← backend.api.server id with
  | .error error => pure (.error error)
  | .ok server =>
    let login ← backend.loginFor server.id
    match server.toNode login with
    | some node => pure (.ok node)
    | none => pure (.error (.notManaged id))

/-- Power a new server on, unless it runs or starts already. -/
def powerOn (backend : Backend σ) (created : Created) : Activity σ (Except ScalewayError Unit) :=
  if created.state = "running" || created.state = "starting" then
    pure (.ok ())
  else if created.allowedActions.contains ServerAction.powerOn.name then
    backend.api.act created.id .powerOn
  else
    pure (.error (.powerOnNotAllowed created.id created.state))

/-- What a new server of a batch is made from. -/
def orderFor (config : ScalewayConfig) (name tag : String) (template : Template) : ServerOrder :=
  { name := name
    size := template.size.id
    image := template.image.id
    project := config.project
    labels := labelsFor tag template }

/-- The record of a new node. -/
def newNode
    (config : ScalewayConfig)
    (name tag : String)
    (template : Template)
    (created : Created)
    (login : Option Credentials) :
    Node :=
  { id := created.id
    tag := tag
    name := name
    state := .pending
    image := template.image.id
    location := config.zone
    publicAddresses := addressesOf created.publicAddress.toList
    privateAddresses := []
    credentials := login
    metadata := template.metadata }

/-- Make a server, power it on, and remember its login. -/
def create
    (backend : Backend σ)
    (tag : String)
    (template : Template) :
    Activity σ (Except ScalewayError Node) := do
  let name := tag ++ "-" ++ (← backend.freshToken)
  match ← backend.api.createServer (orderFor backend.config name tag template) with
  | .error error => pure (.error error)
  | .ok created =>
    match ← backend.powerOn created with
    | .error error => pure (.error error)
    | .ok _ =>
      let login := template.options.privateKey.map fun key =>
        ({ account := loginAccount, key := key } : Credentials)
      backend.remember created.id login
      pure (.ok (newNode backend.config name tag template created login))

/-- Ask for the reboot of a node. -/
def reboot (backend : Backend σ) (id : NodeId) : Activity σ (Except ScalewayError Unit) :=
  backend.api.act id .reboot

/-- Remove a server: terminate it when that is allowed, or else delete it. -/
def remove
    (backend : Backend σ)
    (id : NodeId)
    (server : Server) :
    Activity σ (Except ScalewayError Unit) :=
  if server.allowedActions.contains ServerAction.terminate.name then
    backend.api.act id .terminate
  else
    backend.api.deleteServer id

/-- Destroy a node, and forget its login. -/
def destroy (backend : Backend σ) (id : NodeId) : Activity σ (Except ScalewayError Unit) := do
  match ← backend.api.server id with
  | .error error => pure (.error error)
  | .ok server =>
    if server.batch.isNone then
      pure (.error (.notManaged server.id))
    else
      match ← backend.remove id server with
      | .error error => pure (.error error)
      | .ok _ =>
        backend.remember id none
        pure (.ok ())

/-- The images of records in a zone, by name; of several with one name the last counts. -/
def imagesOf (zone : String) (records : List ImageRecord) : List Image :=
  (Table.ofList ((records.filterMap fun record => record.toImage zone).map fun image =>
    (image.id, image))).values

/-- The public images and those of the project. -/
def images (backend : Backend σ) : Activity σ (Except ScalewayError (List Image)) := do
  let config := backend.config
  match ← backend.api.images { isPublic := true, architecture := config.architecture } with
  | .error error => pure (.error error)
  | .ok shared =>
    match ← backend.api.images
        { isPublic := false, project := some config.project, architecture := config.architecture,
          organization := config.organization } with
    | .error error => pure (.error error)
    | .ok own => pure (.ok (imagesOf config.zone (shared ++ own)))

/-- The sizes of the products, by name. -/
def sizes (backend : Backend σ) : Activity σ (Except ScalewayError (List Size)) := do
  match ← backend.api.products with
  | .error error => pure (.error error)
  | .ok products =>
    pure (.ok (products.entries.map fun (name, product) => product.toSize name))

/-- A call with its error as a provider's failure. -/
def failing {α : Type} (call : Activity σ (Except ScalewayError α)) :
    Activity σ (Except ProviderFailure α) := do
  pure ((← call).mapError ScalewayError.toFailure)

/-- The provider that a backend is. -/
def provider (backend : Backend σ) : Provider σ where
  name := providerName
  loginAccount := some loginAccount
  create tag template := failing (backend.create tag template)
  list tag := failing (backend.list tag)
  get id := failing (backend.get id)
  reboot id := failing (backend.reboot id)
  destroy id := failing (backend.destroy id)
  images := failing backend.images
  sizes := failing backend.sizes
  locations := pure (.ok (locationsFor [backend.config.zone]))

end Backend

end Fleet.Scaleway
