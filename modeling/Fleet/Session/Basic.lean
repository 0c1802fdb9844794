import Fleet.Activity.Basic
import Fleet.Address.Text
import Fleet.Node.Credentials

/-!
# Sessions

A session is a login on a remote host: it is created for an endpoint and credentials, connected,
used to run commands, and disconnected. A transport supplies sessions; `σ` is the state of the
world in which they act and `S` what a session remembers between calls. Errors tell rejected
credentials from every other failure, by their kind or by the words of the remote side.
-/

namespace Fleet

/-- What a remote command left behind. -/
structure Response where
  /-- The standard output. -/
  output : String := ""
  /-- The standard error. -/
  error : String := ""
  /-- The exit status, when the remote side reported one. -/
  exitStatus : Option Int := none
  deriving DecidableEq, Repr

/-- Whether the output or the error text contains a marker. -/
def Response.contains (response : Response) (marker : String) : Bool :=
  Text.containsText response.output marker || Text.containsText response.error marker

/-- Why a session call failed. -/
inductive SessionError where
  /-- The host cannot be reached. -/
  | connect (host message : String)
  /-- The host rejects the credentials. -/
  | auth (account host message : String)
  /-- A command was given to a session that is not connected. -/
  | notConnected (host : String)
  /-- The local client cannot be started. -/
  | spawn (program message : String)
  /-- The key cannot be handed to the local client. -/
  | keyFile (message : String)
  deriving DecidableEq, Repr

namespace SessionError

/-- The wording of the error. -/
def message : SessionError → String
  | connect host message => s!"cannot connect to {host}: {message}"
  | auth account host message => s!"{account}@{host} rejected: {message}"
  | notConnected host => s!"session to {host} is not connected"
  | spawn program message => s!"failed to spawn {program}: {message}"
  | keyFile message => s!"cannot stage private key: {message}"

/-- The words by which remote sides report rejected credentials. -/
def rejectionMarkers : List String :=
  ["Auth fail", "Permission denied", "Too many authentication failures", "authentication failed"]

/-- Whether a message speaks of rejected credentials. -/
def reportsRejection (message : String) : Bool :=
  rejectionMarkers.any (Text.containsText message)

/-- Whether the error is an authentication error or its wording speaks of rejected credentials. -/
def isAuthFailure (error : SessionError) : Bool :=
  match error with
  | auth .. => true
  | _ => reportsRejection error.message

end SessionError

/-- How sessions are made and used. -/
structure Transport (σ S : Type) where
  /-- A session that is not connected yet. -/
  create : Endpoint → Credentials → S
  /-- Log in. -/
  connect : S → Activity σ (Except SessionError Unit × S)
  /-- Run a command. -/
  execute : S → String → Activity σ (Except SessionError Response × S)
  /-- Release the session. -/
  disconnect : S → Activity σ S

/-- A test whether an endpoint accepts connections right now. -/
abbrev Probe (σ : Type) := Endpoint → Activity σ Bool

end Fleet
