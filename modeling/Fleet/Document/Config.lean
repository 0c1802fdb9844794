import Fleet.Config.Client
import Fleet.Document.Script
import Fleet.Document.Service
import Fleet.Json.Parser
import Fleet.Json.Record
import Fleet.Scaleway.Config

/-!
# Documents of configurations

Configurations, their errors, and the sources from which they are loaded. A file is given by its
text or by its bytes in hexadecimal digits.
-/

namespace Fleet

/-- The text in a field, where `null` takes an optional value away. -/
def Json.maybeTextAt (json : Json) (name : String) (fallback : Option String) : Option String :=
  match json.field? name with
  | none => fallback
  | some value => value.text?

/-- The document of a complaint. -/
def Config.Complaint.toJson (complaint : Config.Complaint) : Json :=
  Json.failure "MissingField" complaint.message []

/-- The name of the kind of error. -/
def ConfigError.name : ConfigError → String
  | missingField _ => "MissingField"
  | outOfRange _ => "OutOfRange"
  | keyFile _ _ => "KeyFile"
  | unreadable => "Parse"

/-- The document of the error; what makes sources unreadable is not worded. -/
def ConfigError.toJson (error : ConfigError) : Json :=
  match error with
  | unreadable => .object [("error", .text error.name)]
  | _ => Json.failure error.name error.message []

/-- The document of a result under a configuration. -/
def ConfigError.resultToJson {α : Type} (ofValue : α → Json) : Except ConfigError α → Json :=
  Json.result ConfigError.toJson ofValue

/-- The configuration of a service from a document. -/
def ServiceConfig.ofJson (json : Json) : ServiceConfig :=
  let usual : ServiceConfig := {}
  { runningTimeout := json.natAt "node_running_timeout_secs" usual.runningTimeout
    pollPeriod := json.natAt "node_poll_period_secs" usual.pollPeriod
    catalogLifetime := json.natAt "catalog_ttl_secs" usual.catalogLifetime
    socketAttempts := json.natAt "socket_attempts" usual.socketAttempts
    socketPeriod := json.natAt "socket_period_secs" usual.socketPeriod
    verifyAttempts := json.natAt "verify_attempts" usual.verifyAttempts
    verifyBackoff := json.natAt "verify_backoff_secs" usual.verifyBackoff
    keyFile := json.maybeTextAt "ssh_key_file" usual.keyFile }

/-- The document of the configuration of a service. -/
def ServiceConfig.toJson (config : ServiceConfig) : Json :=
  .object
    [("node_running_timeout_secs", Json.ofNat config.runningTimeout),
      ("node_poll_period_secs", Json.ofNat config.pollPeriod),
      ("catalog_ttl_secs", Json.ofNat config.catalogLifetime),
      ("socket_attempts", Json.ofNat config.socketAttempts),
      ("socket_period_secs", Json.ofNat config.socketPeriod),
      ("verify_attempts", Json.ofNat config.verifyAttempts),
      ("verify_backoff_secs", Json.ofNat config.verifyBackoff),
      ("ssh_key_file", Json.ofText? config.keyFile)]

/-- The document of settings that come from a configuration. -/
def ServiceSettings.configuredToJson (settings : ServiceSettings) : Json :=
  .object
    [("node_running_timeout", Duration.toJson settings.runningTimeout),
      ("node_poll_period", Duration.toJson settings.pollPeriod),
      ("catalog_ttl", Duration.toJson settings.catalogLifetime),
      ("socket_max", Duration.toJson settings.socketWait.budget),
      ("socket_period", Duration.toJson settings.socketWait.period),
      ("verify_attempts", Json.ofNat settings.verification.attempts),
      ("verify_backoff", Duration.toJson settings.verification.backoff),
      ("is_default", .bool (settings == {}))]

/-- The document of the settings of a local client. -/
def ClientSettings.toJson (settings : ClientSettings) : Json :=
  .object
    [("ssh_bin", .text settings.program), ("batch_mode", .bool settings.batchMode),
      ("strict_host_key_checking", .bool settings.strictHostKeys),
      ("known_hosts_file", .text settings.knownHostsFile),
      ("connect_timeout_secs", Json.ofNat settings.connectTimeout)]

/-- The configuration of an account from a document. -/
def ScalewayConfig.ofJson (json : Json) : ScalewayConfig :=
  { accessKey := json.textAt? "access_key"
    secretKey := json.textAt "secret_key" "secret"
    organization := json.textAt? "default_organization_id"
    project := json.textAt "default_project_id" "project"
    zone := json.textAt "default_zone" "fr-par-1"
    architecture := json.textAt "default_architecture" "x86_64" }

/-- The document of the configuration of an account. -/
def ScalewayConfig.toJson (config : ScalewayConfig) : Json :=
  .object
    [("access_key", Json.ofText? config.accessKey), ("secret_key", .text config.secretKey),
      ("default_organization_id", Json.ofText? config.organization),
      ("default_project_id", .text config.project), ("default_zone", .text config.zone),
      ("default_architecture", .text config.architecture)]

/-- The bytes that pairs of hexadecimal digits write. -/
def Files.bytesOfHex : List Char → List UInt8
  | high :: low :: rest =>
    UInt8.ofNat ((Text.numberIn 16 0 [high, low]).getD 0) :: bytesOfHex rest
  | _ => []

/-- The entry of a file tree from a document. -/
def Files.Entry.ofJson (json : Json) : Files.Entry :=
  match json with
  | .text text => .file text.toUTF8
  | _ =>
    match json.textAt? "hex" with
    | some digits => .file (ByteArray.mk (Files.bytesOfHex digits.toList).toArray)
    | none => .directory

/-- The files of a document. -/
def Files.Tree.ofJson (json : Json) : Files.Tree :=
  { entries := json.asFields.map fun (path, entry) =>
      ((Text.splitAt (· == '/') path).filter fun piece => !piece.isEmpty,
        Files.Entry.ofJson entry) }

/-- The sources of a document. -/
def Config.Sources.ofJson (json : Json) : Config.Sources :=
  { environment := Table.ofList ((json.valueAt "env").asFields.map fun (name, value) =>
      (name, value.asText))
    files := Files.Tree.ofJson (json.valueAt "files") }

/-- The document of the configuration of a kind that is loaded from sources. -/
def Config.Sources.loadToJson (sources : Config.Sources) : String → Json
  | "compute" => ConfigError.resultToJson ServiceConfig.toJson sources.serviceConfig
  | "ssh" => ConfigError.resultToJson ClientSettings.toJson sources.clientSettings
  | _ => ConfigError.resultToJson ScalewayConfig.toJson (ScalewayConfig.load sources.environment)

end Fleet
