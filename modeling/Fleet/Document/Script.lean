import Fleet.Document.Node
import Fleet.Document.Time
import Fleet.Script.Failure
import Fleet.Script.Options
import Fleet.Session.Client

/-!
# Documents of script runs

Responses, the failures of sessions and of script runs, and the options of a run.
-/

namespace Fleet

/-- The exit status in a field: zero when it is absent, none when it is `null`. -/
def Json.statusAt (json : Json) (name : String) : Option Int :=
  match json.field? name with
  | none => some 0
  | some (.integer status) => some status
  | some _ => none

/-- The response of a document. -/
def Response.ofJson (json : Json) : Response :=
  { output := json.textAt "output" "", error := json.textAt "error" "",
    exitStatus := json.statusAt "exit_status" }

/-- The fields of a document of a response. -/
def Response.fields (response : Response) : List (String × Json) :=
  [("output", .text response.output), ("error", .text response.error),
    ("exit_status", Json.maybe Json.integer response.exitStatus)]

/-- The document of a response. -/
def Response.toJson (response : Response) : Json :=
  .object response.fields

/-- The name of the kind of error. -/
def SessionError.name : SessionError → String
  | connect _ _ => "Connect"
  | auth _ _ _ => "Auth"
  | notConnected _ => "NotConnected"
  | spawn _ _ => "Spawn"
  | keyFile _ => "KeyFile"

/-- The error of a document. -/
def SessionError.ofJson (json : Json) : SessionError :=
  let host := json.textAt "host" ""
  let message := json.textAt "message" ""
  match json.textAt "variant" "" with
  | "Connect" => connect host message
  | "Auth" => auth (json.textAt "account" "") host message
  | "NotConnected" => notConnected host
  | "Spawn" => spawn (json.textAt "program" "") message
  | _ => keyFile message

/-- The document of the error, with further fields. -/
def SessionError.document (error : SessionError) (more : List (String × Json)) : Json :=
  Json.failure error.name error.message (("auth", .bool error.isAuthFailure) :: more)

/-- The document of the error. -/
def SessionError.toJson (error : SessionError) : Json :=
  error.document []

/-- The name of the kind of failure. -/
def ScriptFailure.name : ScriptFailure → String
  | noAddress _ => "NoAddress"
  | socketTimeout _ _ => "SocketTimeout"
  | missingCredentials _ => "MissingCredentials"
  | authFailed _ _ => "AuthFailed"
  | transport _ _ _ => "Transport"
  | uploadRejected _ _ _ _ => "UploadRejected"
  | markerMissing _ _ _ _ => "MarkerMissing"

/-- The document of the failure. -/
def ScriptFailure.toJson (failure : ScriptFailure) : Json :=
  Json.failure failure.name failure.message
    [("node", .text failure.node), ("stage", .text failure.stage.name),
      ("auth", .bool failure.isAuthFailure),
      ("source", Json.maybe SessionError.toJson failure.source),
      ("last", Json.maybe Response.toJson failure.lastResponse),
      ("root_cause", .text failure.rootCause)]

/-- The document of the result of a script run. -/
def ScriptFailure.resultToJson : Except ScriptFailure Response → Json :=
  Json.result ScriptFailure.toJson Response.toJson

/-- The document of the results of a script run, by node. -/
def ScriptFailure.resultsToJson (results : Table (Except ScriptFailure Response)) : Json :=
  .object (results.entries.map fun (id, result) => (id, ScriptFailure.resultToJson result))

/-- The options of a run from a document. -/
def RunOptions.ofJson (json : Json) : RunOptions :=
  { override := (json.at? "override").map Credentials.ofJson
    privateKey := json.textAt? "private_key"
    fallbackAccount := json.textAt? "fallback_account"
    port := json.natAt "port" 22
    socketWait := json.pollPolicyAt "socket_wait" PollPolicy.forSockets }

/-- The settings of a local client from a document. -/
def ClientSettings.ofJson (json : Json) : ClientSettings :=
  let usual : ClientSettings := {}
  { program := json.textAt "ssh_bin" usual.program
    batchMode := json.boolAt "batch_mode" usual.batchMode
    strictHostKeys := json.boolAt "strict_host_key_checking" usual.strictHostKeys
    knownHostsFile := json.textAt "known_hosts_file" usual.knownHostsFile
    connectTimeout := json.natAt "connect_timeout_secs" usual.connectTimeout }

/-- What a process left behind, from a document; a bare word stands for a silent success. -/
def ProcessOutput.ofJson : Json → ProcessOutput
  | .object fields =>
    let json := Json.object fields
    { code := json.statusAt "code", output := json.textAt "stdout" "",
      error := json.textAt "stderr" "" }
  | _ => {}

/-- The document of a call of the client: the command line, the number of its arguments, and the key
file, which only its owner may read and write. -/
def Invocation.toJson (invocation : Invocation) : Json :=
  .object
    [("command", .text (" ".intercalate (invocation.program :: invocation.arguments))),
      ("args", Json.ofNat invocation.arguments.length),
      ("key", .object [("text", .text invocation.key), ("mode", .text "600")])]

end Fleet
