import Fleet.Memory.Catalog
import Fleet.Node.Basic
import Fleet.Provider.Failure
import Fleet.Template.Basic
import Fleet.Token

/-!
# An account in memory

An account plays the part of a provider: clients that present its identity and secret create, list,
look up, reboot and destroy nodes. A node boots after a number of polls, where listing a node and
looking it up both count as a poll. Faults can be arranged for creations, boots and destructions. An
operation is a function from the account to a result and the account after it.
-/

namespace Fleet.Memory

/-- Why an operation on an account fails. -/
inductive AccountError where
  /-- The identity or the secret does not fit. -/
  | unauthorized (identity : String)
  /-- No node has the name. -/
  | nodeNotFound (id : NodeId)
  /-- The node cannot do this in its state. -/
  | invalidState (id : NodeId) (state : NodeState) (operation : String)
  /-- A move was made that the lifecycle forbids. -/
  | lifecycle (source : NodeError)
  /-- The template cannot be placed. -/
  | noPlacement (location : LocationId)
  /-- All addresses are in use. -/
  | addressPoolExhausted
  /-- An arranged fault. -/
  | injected (operation : String) (kind : FailureKind)
  deriving DecidableEq, Repr

namespace AccountError

/-- The wording of the error. -/
def message : AccountError → String
  | unauthorized identity => s!"authorization failed for identity {identity}"
  | nodeNotFound id => s!"node {id} not found"
  | invalidState id state operation => s!"node {id} in state {state.name} cannot {operation}"
  | lifecycle _ => "node lifecycle violated"
  | noPlacement location => s!"no zone available under location {location}"
  | addressPoolExhausted => "address pool exhausted"
  | injected operation kind => s!"injected {kind.name} failure during {operation}"

/-- How the error is to be treated. -/
def kind : AccountError → FailureKind
  | unauthorized _ => .authorization
  | nodeNotFound _ => .notFound
  | injected _ kind => kind
  | invalidState .. | lifecycle _ | noPlacement _ | addressPoolExhausted => .fatal

/-- The error as a provider's failure. -/
def toFailure (error : AccountError) : ProviderFailure :=
  { kind := error.kind, message := error.message,
    cause := match error with
      | lifecycle source => some source.message
      | _ => none }

end AccountError

/-- A node of an account. -/
structure AccountNode where
  record : Node
  /-- The polls that the node still takes to boot. -/
  pollsLeft : Nat
  /-- Whether the boot ends in an error. -/
  failsToBoot : Bool
  deriving DecidableEq

/-- The state of an account. -/
structure Account where
  catalog : Catalog
  identity : String
  secret : String
  /-- All nodes ever created, by name. -/
  nodes : Table AccountNode := Table.empty
  /-- The names of the nodes of each tag. -/
  tags : Table (Table Unit) := Table.empty
  /-- The number of the node created last. -/
  lastIndex : Nat := 0
  /-- The polls that a boot takes from now on. -/
  bootPolls : Nat := 1
  /-- The creations that will still fail. -/
  failingCreates : Nat := 0
  /-- The creations whose boot will still fail. -/
  failingBoots : Nat := 0
  /-- The nodes whose destruction fails, and how. -/
  destroyFaults : Table FailureKind := Table.empty
  /-- The nodes that stay although their destruction is accepted. -/
  lingering : Table Unit := Table.empty
  /-- The catalog listings served so far. -/
  catalogReads : Nat := 0
  /-- Whether listings and look-ups leave credentials out. -/
  withholdsCredentials : Bool := false
  /-- The source of generated keys. -/
  keys : TokenSupply := { label := 1 }
  deriving DecidableEq

/-- What a client presents. -/
structure Client where
  identity : String
  secret : String
  deriving DecidableEq, Repr

/-- An operation on an account. -/
abbrev Operation (α : Type) := Account → Except AccountError α × Account

namespace Account

/-- The account under which the nodes are logged into. -/
def loginAccount : String := "root"

/-- Whether a client may use the account. -/
def admits (account : Account) (client : Client) : Bool :=
  account.identity == client.identity && account.secret == client.secret

/-- An operation for clients that the account admits. -/
def authorized {α : Type} (client : Client) (operation : Operation α) : Operation α :=
  fun account =>
    if account.admits client then operation account
    else (.error (.unauthorized client.identity), account)

/-- A node after one more poll: a pending node comes closer to the end of its boot, and then
settles. -/
def polled (node : AccountNode) : Except AccountError AccountNode :=
  if node.record.state ≠ .pending then
    .ok node
  else if 0 < node.pollsLeft then
    .ok { node with pollsLeft := node.pollsLeft - 1 }
  else
    match node.record.moveTo (if node.failsToBoot then .error else .running) with
    | .ok record => .ok { node with record := record }
    | .error error => .error (.lifecycle error)

/-- Poll a node, if it exists. -/
def advance (account : Account) (id : NodeId) : Except AccountError Account :=
  match account.nodes.find? id with
  | none => .ok account
  | some node => do
    let node ← polled node
    pure { account with nodes := account.nodes.insert id node }

/-- The record of a node as clients see it. -/
def shown (account : Account) (node : AccountNode) : Node :=
  if account.withholdsCredentials then { node.record with credentials := none } else node.record

/-- Where a template's node is put: in its zone or host, or in the first zone under its region or
provider, or else in the default location. -/
def placement (account : Account) (location : Location) : Except AccountError LocationId :=
  match location.scope with
  | .zone | .host => .ok location.id
  | .region | .provider =>
    let registry := account.catalog.locations
    let zone := (registry.childrenOf location.id).find? fun child => child.scope == .zone
    match zone.or registry.defaultLocation with
    | some place => .ok place.id
    | none => .error (.noPlacement location.id)

/-- The last address of the pool; the one after it is reserved. -/
def lastHost : Nat := 254

/-- The record of a new node. -/
def newRecord
    (index : Nat)
    (tag : String)
    (template : Template)
    (location : LocationId)
    (key : String) :
    Node :=
  { id := s!"stub-{index}"
    tag := tag
    name := s!"{tag}-{index}"
    state := .pending
    image := template.image.id
    location := location
    publicAddresses := [.v4 198 51 100 index]
    privateAddresses := [.v4 10 0 0 index]
    credentials := some { account := loginAccount, key := key }
    metadata := template.metadata }

/-- The key of a new node: the one to install, or else a generated one. -/
def keyFor (account : Account) (template : Template) : String × TokenSupply :=
  match template.options.privateKey with
  | some key => (key, account.keys)
  | none => ("stub-key-" ++ account.keys.next, account.keys.draw.2)

/-- The account with a new node. -/
def store (account : Account) (record : Node) : Account :=
  { account with
    nodes := account.nodes.insert record.id
      { record := record, pollsLeft := account.bootPolls,
        failsToBoot := 0 < account.failingBoots }
    failingBoots := account.failingBoots - 1
    tags := account.tags.insert record.tag
      (((account.tags.find? record.tag).getD Table.empty).insert record.id ()) }

/-- The number of the next node; the count stops at the end of a word. -/
def nextIndex (account : Account) : Nat :=
  min (account.lastIndex + 1) Text.largest32

/-- Create a node. -/
def create (tag : String) (template : Template) : Operation Node := fun account =>
  if 0 < account.failingCreates then
    (.error (.injected "create" .transient),
      { account with failingCreates := account.failingCreates - 1 })
  else
    match account.placement template.location with
    | .error error => (.error error, account)
    | .ok location =>
      let index := account.nextIndex
      let account := { account with lastIndex := index }
      if lastHost < index then
        (.error .addressPoolExhausted, account)
      else
        let (key, keys) := account.keyFor template
        let record := newRecord index tag template location key
        (.ok record, { account with keys := keys }.store record)

/-- Poll nodes in turn and show each. -/
def pollAll : List NodeId → Operation (List Node)
  | [], account => (.ok [], account)
  | id :: rest, account =>
    match account.advance id with
    | .error error => (.error error, account)
    | .ok account =>
      let here := (account.nodes.find? id).toList.map account.shown
      match pollAll rest account with
      | (.ok others, account) => (.ok (here ++ others), account)
      | (.error error, account) => (.error error, account)

/-- The names of the nodes with a tag, or of all nodes. -/
def listed (account : Account) : Option String → List NodeId
  | none => account.nodes.keys
  | some tag => ((account.tags.find? tag).map Table.keys).getD []

/-- List the nodes, or those with a tag. -/
def list (tag : Option String) : Operation (List Node) := fun account =>
  pollAll (account.listed tag) account

/-- Look a node up. -/
def get (id : NodeId) : Operation Node := fun account =>
  match account.advance id with
  | .error error => (.error error, account)
  | .ok account =>
    match account.nodes.find? id with
    | some node => (.ok (account.shown node), account)
    | none => (.error (.nodeNotFound id), account)

/-- Move a node to a state, keeping the rest of its settings. -/
def moved
    (account : Account)
    (id : NodeId)
    (node : AccountNode)
    (state : NodeState) :
    Except AccountError Unit × Account :=
  match node.record.moveTo state with
  | .error error => (.error (.lifecycle error), account)
  | .ok record =>
    (.ok (), { account with nodes := account.nodes.insert id { node with record := record } })

/-- Reboot a running node. -/
def reboot (id : NodeId) : Operation Unit := fun account =>
  match account.nodes.find? id with
  | none => (.error (.nodeNotFound id), account)
  | some node =>
    if node.record.state ≠ .running then
      (.error (.invalidState id node.record.state "reboot"), account)
    else
      account.moved id { node with pollsLeft := account.bootPolls, failsToBoot := false } .pending

/-- Destroy a node. -/
def destroy (id : NodeId) : Operation Unit := fun account =>
  match account.destroyFaults.find? id with
  | some kind => (.error (.injected "destroy" kind), account)
  | none =>
    if account.lingering.contains id then
      (.ok (), account)
    else
      match account.nodes.find? id with
      | none => (.error (.nodeNotFound id), account)
      | some node =>
        if node.record.state.isTerminated then (.ok (), account)
        else account.moved id node .terminated

/-- Read a part of the catalog. -/
def readCatalog {α : Type} (part : Catalog → α) : Operation α := fun account =>
  (.ok (part account.catalog),
    { account with catalogReads := min (account.catalogReads + 1) Text.largest32 })

/-- Whether a node at an address runs and knows a login. -/
def acceptsLogin (account : Account) (address : Address) (login : Credentials) : Bool :=
  account.nodes.values.any fun node =>
    (node.record.publicAddresses.contains address ||
        node.record.privateAddresses.contains address) &&
      node.record.state == .running && node.record.credentials == some login

end Account

end Fleet.Memory
