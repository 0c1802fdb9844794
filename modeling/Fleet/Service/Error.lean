import Fleet.Duration
import Fleet.Provider.Failure
import Fleet.Script.Failure
import Fleet.Node.Basic
import Fleet.Template.Criteria

/-!
# Errors of the service

A failed provider call fails the whole operation, and rejected credentials are told apart from every
other failure of a call. What happens to a single node of a batch is a failure of that node only.
-/

namespace Fleet

/-- The provider calls that errors name. -/
inductive ProviderCall where
  | listImages
  | listSizes
  | listLocations
  | createNode
  | listNodes
  | getNode
  | rebootNodes
  | rebootNode
  | destroyNodes
  | destroyNode
  deriving DecidableEq, Repr

/-- The name of a provider call. -/
def ProviderCall.name : ProviderCall → String
  | listImages => "list_images"
  | listSizes => "list_sizes"
  | listLocations => "list_assignable_locations"
  | createNode => "create_node"
  | listNodes => "list_nodes"
  | getNode => "get_node"
  | rebootNodes => "reboot_nodes"
  | rebootNode => "reboot_node"
  | destroyNodes => "destroy_nodes"
  | destroyNode => "destroy_node"

/-- Why a whole operation failed. -/
inductive ServiceError where
  /-- The provider rejected the credentials. -/
  | authorization (call : ProviderCall) (source : ProviderFailure)
  /-- A provider call failed in another way. -/
  | provider (call : ProviderCall) (source : ProviderFailure)
  /-- The criteria of a template cannot be resolved. -/
  | noMatch (source : TemplateError)
  /-- The provider's locations form no hierarchy. -/
  | location (source : LocationError)
  /-- The request makes no sense. -/
  | invalidRequest (reason : String)
  /-- The provider answered with a record that does not fit the one it was asked about. -/
  | inconsistent (id : NodeId) (field expected actual : String)
  deriving DecidableEq, Repr

namespace ServiceError

/-- The wording of the error. -/
def message : ServiceError → String
  | authorization call _ => s!"provider rejected the credentials during {call.name}"
  | provider call _ => s!"provider call {call.name} failed"
  | noMatch source => source.message
  | location source => source.message
  | invalidRequest reason => s!"invalid request: {reason}"
  | inconsistent id field expected actual =>
    s!"node {id} came back with {field} {Text.quote actual}, expected {Text.quote expected}"

/-- Whether the provider rejected the credentials. -/
def isAuthorization : ServiceError → Bool
  | authorization .. => true
  | _ => false

/-- The error that a failed provider call makes. -/
def ofFailure (call : ProviderCall) (failure : ProviderFailure) : ServiceError :=
  if failure.isAuthorization then .authorization call failure else .provider call failure

@[simp]
theorem isAuthorization_ofFailure
    (call : ProviderCall)
    (failure : ProviderFailure) :
    (ofFailure call failure).isAuthorization = failure.isAuthorization := by
  simp only [ofFailure]
  split <;> simp_all [isAuthorization]

end ServiceError

/-- Why a node of a batch did not come up. -/
inductive NodeFailure where
  /-- The provider refused to create the node. -/
  | create (source : ProviderFailure)
  /-- The node settled in another state than running. -/
  | settled (id : NodeId) (state : NodeState)
  /-- The node did not settle in time. -/
  | timeout (id : NodeId) (state : NodeState) (waited : Nat)
  /-- The node could not be looked up. -/
  | poll (id : NodeId) (source : ProviderFailure)
  /-- The record of the node breaks a rule. -/
  | invalid (id : NodeId) (source : NodeError)
  /-- The port that the template waits for did not open. -/
  | portClosed (id : NodeId) (port : Nat)
  /-- The first script failed. -/
  | script (source : ScriptFailure)
  deriving DecidableEq, Repr

namespace NodeFailure

/-- The wording of the failure. -/
def message : NodeFailure → String
  | create _ => "node creation failed"
  | settled id state => s!"node {id} settled in {state.name}"
  | timeout id state waited =>
    s!"node {id} still {state.name} after {Duration.describe waited}"
  | poll id _ => s!"polling node {id} failed"
  | invalid id _ => s!"node {id} is malformed"
  | portClosed id port => s!"port {port} on node {id} never opened"
  | script source => s!"bootstrap script failed on node {source.node}"

/-- The node to which the failure belongs; nothing when it was never created. -/
def node : NodeFailure → Option NodeId
  | create _ => none
  | settled id _ | timeout id _ _ | poll id _ | invalid id _ | portClosed id _ => some id
  | script source => some source.node

end NodeFailure

end Fleet
