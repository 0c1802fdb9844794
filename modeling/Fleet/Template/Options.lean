import Fleet.Duration
import Fleet.Node.Credentials

/-!
# Options of a template

What happens to a node besides its creation: the keys it is given, the script that it runs first,
the port that it has to open. A setting made twice keeps its last value. The description of options
shows neither keys nor scripts.
-/

namespace Fleet

/-- A port that has to accept connections, and the time it is given. -/
structure PortWait where
  port : Nat
  timeout : Nat
  deriving DecidableEq, Repr

/-- The description of the wait. -/
def PortWait.describe (wait : PortWait) : String :=
  Text.recordText "PortWait"
    [("port", toString wait.port), ("timeout", Duration.describe wait.timeout)]

/-- The options that a template carries. -/
structure TemplateOptions where
  /-- The private key with which the node is logged into. -/
  privateKey : Option String := none
  /-- The public key that may log in. -/
  publicKey : Option String := none
  /-- The script that a new node runs. -/
  script : Option String := none
  /-- The login to use instead of the node's own. -/
  override : Option Credentials := none
  /-- The port that a new node has to open. -/
  portWait : Option PortWait := none
  /-- Whether descriptions are attached to the node. -/
  includesMetadata : Bool := false
  deriving DecidableEq, Repr

namespace TemplateOptions

/-- The description of options. -/
def describe (options : TemplateOptions) : String :=
  Text.recordText "TemplateOptions"
    [("private_key",
        Text.optional (fun _ => Text.quote Credentials.redacted) options.privateKey),
      ("public_key", Text.optional Text.quote options.publicKey),
      ("run_script", Text.optional (fun script => toString script.utf8ByteSize) options.script),
      ("override_credentials", Text.optional Credentials.describe options.override),
      ("block_on_port", Text.optional PortWait.describe options.portWait),
      ("include_metadata", if options.includesMetadata then "true" else "false")]

end TemplateOptions

end Fleet
