import Fleet.Config.Setting

/-!
# Errors of a configuration

A configuration can hold a value that makes no sense, name a key file that cannot be read, or come
from sources that cannot be read at all.
-/

namespace Fleet

/-- Why a configuration cannot be used. -/
inductive ConfigError where
  /-- A value is blank or zero. -/
  | missingField (complaint : Config.Complaint)
  /-- A number lies above its ceiling. -/
  | outOfRange (complaint : Config.Complaint)
  /-- The key file cannot be read. -/
  | keyFile (path message : String)
  /-- The sources do not fit together. -/
  | unreadable
  deriving DecidableEq, Repr

/-- The wording of the error. -/
def ConfigError.message : ConfigError → String
  | missingField complaint => s!"missing configuration field: {complaint.message}"
  | outOfRange complaint => s!"configuration value out of range: {complaint.message}"
  | keyFile path message => s!"cannot read key file {path}: {message}"
  | unreadable => "configuration parsing failed"

/-- The error that a complaint makes. -/
def ConfigError.ofComplaint : Config.Complaint → ConfigError
  | .missing setting => missingField (.missing setting)
  | .notPositive setting => missingField (.notPositive setting)
  | .aboveCeiling setting ceiling => outOfRange (.aboveCeiling setting ceiling)

/-- Fail with a complaint, if there is one. -/
def ConfigError.check : Option Config.Complaint → Except ConfigError Unit
  | none => .ok ()
  | some complaint => .error (ofComplaint complaint)

end Fleet
