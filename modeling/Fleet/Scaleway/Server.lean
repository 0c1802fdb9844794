import Fleet.Address.Text
import Fleet.Node.Basic
import Fleet.Scaleway.Label

/-!
# Servers

What the interface tells of a server, and the node that a server with a batch label is. A server
that has been made but not powered on yet is stopped, so stopped servers count as pending. Texts
that write no address are left out.
-/

namespace Fleet.Scaleway

/-- A server as it is listed or looked up. -/
structure Server where
  id : String
  name : String := ""
  state : String
  /-- What may be asked of the server in its state. -/
  allowedActions : List String := []
  labels : List String := []
  /-- The image that the server was made from, when it is known. -/
  image : Option String := none
  publicAddress : Option String := none
  publicAddresses : List String := []
  privateAddress : Option String := none
  zone : String
  deriving DecidableEq, Repr

/-- The state of a node whose server reports a word. -/
def nodeState (word : String) : NodeState :=
  if ["stopped", "stopped in place", "stopping"].contains word then .pending
  else NodeState.reported word

/-- The addresses that texts write, in ascending order. -/
def addressesOf (texts : List String) : List Address :=
  Address.sorted (texts.filterMap Address.ofText?)

/-- The batch that the server belongs to. -/
def Server.batch (server : Server) : Option String :=
  batchOf server.labels

/-- The node that a server is, with the login that is known for it; a server without batch is no
node. -/
def Server.toNode (server : Server) (login : Option Credentials) : Option Node :=
  server.batch.map fun tag =>
    { id := server.id
      tag := tag
      name := server.name
      state := nodeState server.state
      image := server.image.getD ""
      location := server.zone
      publicAddresses := addressesOf (server.publicAddress.toList ++ server.publicAddresses)
      privateAddresses := addressesOf server.privateAddress.toList
      credentials := login
      metadata := descriptionsOf server.labels }

@[simp]
theorem Server.isSome_toNode
    (server : Server)
    (login : Option Credentials) :
    (server.toNode login).isSome = server.batch.isSome := by
  simp [Server.toNode]

end Fleet.Scaleway
