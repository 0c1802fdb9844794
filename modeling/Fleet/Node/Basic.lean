import Fleet.Address.Basic
import Fleet.Identifier
import Fleet.Node.Credentials
import Fleet.Node.State
import Fleet.Table

/-!
# Nodes

The record of a node as its provider shows it. A well-formed record of a running node has an
address, and credentials, where a record has them, are complete. The state of a record changes only
by the moves that the lifecycle permits.
-/

namespace Fleet

/-- What is known of a node. -/
structure Node where
  /-- The name of the node, unique within its provider. -/
  id : NodeId
  /-- The batch in which the node was created. -/
  tag : String
  /-- The name that the provider displays. -/
  name : String
  /-- The state in which the node was last seen. -/
  state : NodeState
  /-- The image that the node was made from. -/
  image : ImageId
  /-- Where the node is placed. -/
  location : LocationId
  /-- The public addresses in ascending order. -/
  publicAddresses : List Address
  /-- The addresses within the provider's network in ascending order. -/
  privateAddresses : List Address
  /-- The login that was reported at creation, when it is known. -/
  credentials : Option Credentials
  /-- Descriptions attached at creation. -/
  metadata : Table String
  deriving DecidableEq

/-- How a record of a node breaks its rules. -/
inductive NodeError where
  /-- A running node has no address. -/
  | unreachable (id : NodeId)
  /-- The credentials lack an account or a key. -/
  | incompleteCredentials (id : NodeId)
  /-- The lifecycle does not permit the move. -/
  | illegalTransition (id : NodeId) (current next : NodeState)
  deriving DecidableEq, Repr

/-- The wording of the error. -/
def NodeError.message : NodeError → String
  | unreachable id => s!"running node {id} has no public or private address"
  | incompleteCredentials id => s!"node {id} has incomplete credentials"
  | illegalTransition id current next =>
    s!"node {id} cannot move from {current.name} to {next.name}"

namespace Node

/-- The address by which a node is reached: the first public one, else the first private one. -/
def primaryAddress (node : Node) : Option Address :=
  (node.publicAddresses ++ node.privateAddresses).head?

/-- Whether the node has an address. -/
def hasAddress (node : Node) : Bool :=
  !node.publicAddresses.isEmpty || !node.privateAddresses.isEmpty

/-- Check that a running node has an address and that credentials are complete. -/
def checkInvariants (node : Node) : Except NodeError Unit :=
  if node.state = .running && !node.hasAddress then
    .error (.unreachable node.id)
  else if node.credentials.any fun credentials => !credentials.isComplete then
    .error (.incompleteCredentials node.id)
  else
    .ok ()

/-- The record with a new state, when the lifecycle permits the move. -/
def moveTo (node : Node) (next : NodeState) : Except NodeError Node :=
  if node.state.mayBecome next then
    .ok { node with state := next }
  else
    .error (.illegalTransition node.id node.state next)

/-- Whether the node runs and belongs to a batch. -/
def isRunningIn (tag : String) (node : Node) : Bool :=
  node.state == .running && node.tag == tag

/-- Whether the node has not been destroyed. -/
def isLive (node : Node) : Bool :=
  !node.state.isTerminated

/-- The order of records: by name first, then by the remaining fields in turn. -/
def order (left right : Node) : Ordering :=
  (compare left.id right.id)
    |>.then (compare left.tag right.tag)
    |>.then (compare left.state right.state)
    |>.then (compare left.name right.name)
    |>.then (compare left.image right.image)
    |>.then (compare left.location right.location)
    |>.then (compare left.publicAddresses right.publicAddresses)
    |>.then (compare left.privateAddresses right.privateAddresses)
    |>.then (compare (left.credentials.map fun held => [held.account, held.key])
      (right.credentials.map fun held => [held.account, held.key]))

instance : Ord Node := ⟨order⟩

/-- Records in ascending order; records of equal rank keep their places. -/
def sort (nodes : List Node) : List Node :=
  nodes.mergeSort fun left right => (left.order right).isLE

/-- Records in ascending order of their names; records of one name keep their places. -/
def sortById (nodes : List Node) : List Node :=
  nodes.mergeSort fun left right => left.id ≤ right.id

/-- The ordered set of records: in ascending order, with neighbours that are equal counted once. -/
def distinct (nodes : List Node) : List Node :=
  (sort nodes).eraseReps

/-- A record has an address exactly when it has a primary one. -/
theorem isSome_primaryAddress (node : Node) : node.primaryAddress.isSome = node.hasAddress := by
  cases shape : node.publicAddresses <;> cases other : node.privateAddresses <;>
    simp [primaryAddress, hasAddress, shape, other]

end Node

end Fleet
