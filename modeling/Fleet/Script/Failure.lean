import Fleet.Identifier
import Fleet.Session.Basic
import Fleet.Text.Quoted

/-!
# Failures of a script run

How the run of a script or command on one node can end early. A failure that goes back to a session
keeps the session's error as its source; the innermost error is the root cause.
-/

namespace Fleet

/-- How far a script run on one node has come. -/
inductive Stage where
  | awaitSocket
  | connecting
  | executing
  | done
  | authFailed
  | transportFailed
  deriving DecidableEq, Repr

/-- The name of a stage. -/
def Stage.name : Stage → String
  | awaitSocket => "AWAIT_SOCKET"
  | connecting => "CONNECTING"
  | executing => "EXECUTING"
  | done => "DONE"
  | authFailed => "AUTH_FAILED"
  | transportFailed => "TRANSPORT_FAILED"

/-- Why a script run on a node ended early. -/
inductive ScriptFailure where
  /-- The node has no address. -/
  | noAddress (node : NodeId)
  /-- The login port did not open in time. -/
  | socketTimeout (node : NodeId) (endpoint : Endpoint)
  /-- No complete login results. -/
  | missingCredentials (node : NodeId)
  /-- The node rejects the login. -/
  | authFailed (node : NodeId) (source : SessionError)
  /-- The session failed in another way. -/
  | transport (node : NodeId) (stage : Stage) (source : SessionError)
  /-- The script could not be written to the node. -/
  | uploadRejected (node : NodeId) (path : String) (status : Option Int) (error : String)
  /-- The expected marker did not show up. -/
  | markerMissing (node : NodeId) (command marker : String) (last : Response)
  deriving DecidableEq, Repr

namespace ScriptFailure

/-- The wording of the failure. -/
def message : ScriptFailure → String
  | noAddress node => s!"node {node} has no address"
  | socketTimeout node endpoint => s!"port {endpoint.port} on node {node} did not open in time"
  | missingCredentials node => s!"node {node} has no credentials to log in with"
  | authFailed node _ => s!"authentication to node {node} failed"
  | transport node stage _ => s!"transport to node {node} failed while {stage.name}"
  | uploadRejected node path status error =>
    s!"upload of {path} to node {node} exited with {Text.optional toString status}: {error}"
  | markerMissing node command marker _ =>
    s!"output of `{command}` on node {node} never contained {Text.quote marker}"

/-- The node to which the failure belongs. -/
def node : ScriptFailure → NodeId
  | noAddress node | socketTimeout node _ | missingCredentials node | authFailed node _
  | transport node _ _ | uploadRejected node _ _ _ | markerMissing node _ _ _ => node

/-- The stage in which the run ended. -/
def stage : ScriptFailure → Stage
  | authFailed .. => .authFailed
  | _ => .transportFailed

/-- Whether the login was rejected. -/
def isAuthFailure : ScriptFailure → Bool
  | authFailed .. => true
  | _ => false

/-- The session's error behind the failure. -/
def source : ScriptFailure → Option SessionError
  | authFailed _ source | transport _ _ source => some source
  | _ => none

/-- The last response, when the failure is about one. -/
def lastResponse : ScriptFailure → Option Response
  | markerMissing _ _ _ last => some last
  | _ => none

/-- The wording of the innermost error. -/
def rootCause (failure : ScriptFailure) : String :=
  match failure.source with
  | some source => source.message
  | none => failure.message

/-- The failure that a session's error makes at a stage. -/
def ofSession (node : NodeId) (stage : Stage) (error : SessionError) : ScriptFailure :=
  if error.isAuthFailure then .authFailed node error else .transport node stage error

@[simp]
theorem node_ofSession
    (node : NodeId)
    (stage : Stage)
    (error : SessionError) :
    (ofSession node stage error).node = node := by
  simp only [ofSession]
  split <;> rfl

end ScriptFailure

end Fleet
