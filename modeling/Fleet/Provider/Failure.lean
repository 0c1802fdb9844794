/-!
# Failures of a provider

What a caller needs to know of a failed provider call: the kind, which decides how the failure is
treated, and the wording.
-/

namespace Fleet

/-- How a failed provider call is to be treated. -/
inductive FailureKind where
  /-- The credentials were rejected. -/
  | authorization
  /-- The target does not exist. -/
  | notFound
  /-- The provider cannot do this. -/
  | unsupported
  /-- Another attempt may succeed. -/
  | transient
  /-- Anything else. -/
  | fatal
  deriving DecidableEq, Repr

/-- The name of a kind. -/
def FailureKind.name : FailureKind → String
  | authorization => "Authorization"
  | notFound => "NotFound"
  | unsupported => "Unsupported"
  | transient => "Transient"
  | fatal => "Fatal"

/-- A failed provider call. -/
structure ProviderFailure where
  kind : FailureKind
  message : String
  /-- The wording of the error behind this one. -/
  cause : Option String := none
  deriving DecidableEq, Repr

/-- Whether the credentials were rejected. -/
def ProviderFailure.isAuthorization (failure : ProviderFailure) : Bool :=
  failure.kind == .authorization

end Fleet
