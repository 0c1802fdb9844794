import Fleet.Config.Discovery
import Fleet.Config.Service
import Fleet.Session.Client

/-!
# Loading configurations

The configurations of services and of the local client come from the environment, a settings file
and what is built in, in this order. Values for unknown keys do not count.
-/

namespace Fleet.Config

namespace Sources

/-- The layers of the environment variables with a lead and of the settings file. -/
def layers (sources : Sources) (lead : String) : Option (List Layer) := do
  let file ← sources.fileLayer
  pure [Layer.ofEnvironment lead sources.environment, file]

/-- The configuration of a service. -/
def serviceConfig? (sources : Sources) : Option ServiceConfig := do
  let layers ← sources.layers "CUMULUS_"
  let usual : ServiceConfig := {}
  let seconds := naturalIn layers Text.largest64
  let attempts := naturalIn layers Text.largest32
  pure
    { runningTimeout := ← seconds "node_running_timeout_secs" usual.runningTimeout
      pollPeriod := ← seconds "node_poll_period_secs" usual.pollPeriod
      catalogLifetime := ← seconds "catalog_ttl_secs" usual.catalogLifetime
      socketAttempts := ← attempts "socket_attempts" usual.socketAttempts
      socketPeriod := ← seconds "socket_period_secs" usual.socketPeriod
      verifyAttempts := ← attempts "verify_attempts" usual.verifyAttempts
      verifyBackoff := ← seconds "verify_backoff_secs" usual.verifyBackoff
      keyFile := ← textIn layers "ssh_key_file" }

/-- The configuration of a service. -/
def serviceConfig (sources : Sources) : Except ConfigError ServiceConfig :=
  sources.serviceConfig?.elim (.error .unreadable) .ok

/-- The settings of the local client. Its two switches are off unless the command line turns them
on, whatever the sources say. -/
def clientSettings? (sources : Sources) : Option ClientSettings := do
  let layers ← sources.layers "CUMULUS_SSH_"
  let usual : ClientSettings := {}
  pure
    { program := (← textIn layers "ssh_bin").getD usual.program
      batchMode := false
      strictHostKeys := false
      knownHostsFile := (← textIn layers "known_hosts_file").getD usual.knownHostsFile
      connectTimeout :=
        ← naturalIn layers Text.largest64 "connect_timeout_secs" usual.connectTimeout }

/-- The settings of the local client. -/
def clientSettings (sources : Sources) : Except ConfigError ClientSettings :=
  sources.clientSettings?.elim (.error .unreadable) .ok

end Sources

end Fleet.Config
