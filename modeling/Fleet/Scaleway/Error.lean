import Fleet.Config.Error
import Fleet.Provider.Failure

/-!
# Errors of the interface

The interface answers with an error document, with a bare status, or not at all; a body may not hold
what it should. A server without batch is not managed, and a server that was made may not allow to
be powered on. Every error belongs to one kind of failure.
-/

namespace Fleet

/-- Why a call of the interface failed. -/
inductive ScalewayError where
  /-- The configuration cannot be used. -/
  | config (message : String)
  /-- The interface answered with an error document. -/
  | api (type message : String)
  /-- The interface answered with a status that is no success. -/
  | http (method path : String) (status : Nat) (body : String)
  /-- There was no answer, or none that the client understands. -/
  | transport (message : String)
  /-- The body does not hold the resource. -/
  | decode (resource message : String)
  /-- The server carries no batch label. -/
  | notManaged (id : String)
  /-- The server cannot be powered on. -/
  | powerOnNotAllowed (id state : String)
  deriving DecidableEq, Repr

namespace ScalewayError

/-- The wording of the error. -/
def message : ScalewayError → String
  | config message => s!"configuration error: {message}"
  | api type message => s!"Scaleway API error ({type}): {message}"
  | http method path status body => s!"{method} {path} returned {status}: {body}"
  | transport message => s!"transport error: {message}"
  | decode resource message => s!"cannot decode {resource}: {message}"
  | notManaged id => s!"server {id} carries no batch tag"
  | powerOnNotAllowed id state => s!"server {id} in state {state} cannot be powered on"

/-- The kind of failure that an error document of a type stands for. -/
def kindOfType (type : String) : FailureKind :=
  if ["denied_authentication", "authentication_error", "permissions_denied"].contains type then
    .authorization
  else if ["not_found", "unknown_resource"].contains type then .notFound
  else if ["transient_state", "out_of_stock", "quotas_exceeded"].contains type then .transient
  else .fatal

/-- The kind of failure that a status stands for. -/
def kindOfStatus (status : Nat) : FailureKind :=
  if status = 401 || status = 403 then .authorization
  else if status = 404 then .notFound
  else if status = 405 || status = 501 then .unsupported
  else if status = 409 || status = 429 || (500 ≤ status && status ≤ 599) then .transient
  else .fatal

/-- How the error is to be treated. -/
def kind : ScalewayError → FailureKind
  | api type _ => kindOfType type
  | http _ _ status _ => kindOfStatus status
  | transport _ => .transient
  | notManaged _ => .notFound
  | config _ | decode _ _ | powerOnNotAllowed _ _ => .fatal

/-- The error as a provider's failure. -/
def toFailure (error : ScalewayError) : ProviderFailure :=
  { kind := error.kind, message := error.message }

/-- The error of a configuration. -/
def ofConfig (error : ConfigError) : ScalewayError :=
  .config error.message

end ScalewayError

end Fleet
