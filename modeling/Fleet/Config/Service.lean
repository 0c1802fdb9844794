import Fleet.Config.Error
import Fleet.Files.Tree
import Fleet.Script.Options
import Fleet.Service.Basic

/-!
# Configuration of a service

The times and numbers of a service in whole seconds, and the file with the key for logins. Values
are checked in a fixed order: first that none is zero that must not be, then that none is above its
ceiling, and last that a key file has a name. A configuration that passes is carried over into the
settings of a service as it is.
-/

namespace Fleet

/-- What can be configured of a service. -/
structure ServiceConfig where
  /-- The seconds that a node may take to settle. -/
  runningTimeout : Nat := 600
  /-- The seconds between two looks at a node. -/
  pollPeriod : Nat := 1
  /-- The seconds for which a catalog is served; zero turns the cache off. -/
  catalogLifetime : Nat := 60
  /-- The attempts on a login port. -/
  socketAttempts : Nat := 60
  /-- The seconds between two attempts on a login port. -/
  socketPeriod : Nat := 1
  /-- The attempts of a verification. -/
  verifyAttempts : Nat := 5
  /-- The seconds between two attempts of a verification. -/
  verifyBackoff : Nat := 10
  /-- The file with the key for logins. -/
  keyFile : Option String := none
  deriving DecidableEq, Repr

namespace ServiceConfig

/-- The longest time that may be configured, in seconds: one week. -/
def longestWait : Nat := 7 * 24 * 60 * 60

/-- The largest number of attempts that may be configured. -/
def mostAttempts : Nat := 10000

/-- The names of the running timeout. -/
def runningTimeoutSetting : Config.Setting :=
  ⟨"node running timeout", "CUMULUS_NODE_RUNNING_TIMEOUT_SECS", "node_running_timeout_secs"⟩

/-- The names of the poll period. -/
def pollPeriodSetting : Config.Setting :=
  ⟨"node poll period", "CUMULUS_NODE_POLL_PERIOD_SECS", "node_poll_period_secs"⟩

/-- The names of the catalog's lifetime. -/
def catalogLifetimeSetting : Config.Setting :=
  ⟨"catalog TTL", "CUMULUS_CATALOG_TTL_SECS", "catalog_ttl_secs"⟩

/-- The names of the attempts on a login port. -/
def socketAttemptsSetting : Config.Setting :=
  ⟨"socket attempts", "CUMULUS_SOCKET_ATTEMPTS", "socket_attempts"⟩

/-- The names of the pause between attempts on a login port. -/
def socketPeriodSetting : Config.Setting :=
  ⟨"socket period", "CUMULUS_SOCKET_PERIOD_SECS", "socket_period_secs"⟩

/-- The names of the attempts of a verification. -/
def verifyAttemptsSetting : Config.Setting :=
  ⟨"verification attempts", "CUMULUS_VERIFY_ATTEMPTS", "verify_attempts"⟩

/-- The names of the pause between attempts of a verification. -/
def verifyBackoffSetting : Config.Setting :=
  ⟨"verification backoff", "CUMULUS_VERIFY_BACKOFF_SECS", "verify_backoff_secs"⟩

/-- The names of the key file. -/
def keyFileSetting : Config.Setting :=
  ⟨"SSH key file", "CUMULUS_SSH_KEY_FILE", "ssh_key_file"⟩

/-- The names of the key file when its contents are at fault. -/
def keyContentsSetting : Config.Setting :=
  ⟨"SSH key contents", "CUMULUS_SSH_KEY_FILE", "ssh_key_file"⟩

/-- Complaints about values that are zero and must not be. -/
def zeroComplaints (config : ServiceConfig) : List (Option Config.Complaint) :=
  [runningTimeoutSetting.requirePositive config.runningTimeout,
    pollPeriodSetting.requirePositive config.pollPeriod,
    socketAttemptsSetting.requirePositive config.socketAttempts,
    socketPeriodSetting.requirePositive config.socketPeriod,
    verifyAttemptsSetting.requirePositive config.verifyAttempts]

/-- Complaints about values above their ceilings. -/
def ceilingComplaints (config : ServiceConfig) : List (Option Config.Complaint) :=
  [runningTimeoutSetting.requireAtMost longestWait config.runningTimeout,
    pollPeriodSetting.requireAtMost longestWait config.pollPeriod,
    catalogLifetimeSetting.requireAtMost longestWait config.catalogLifetime,
    socketAttemptsSetting.requireAtMost mostAttempts config.socketAttempts,
    socketPeriodSetting.requireAtMost longestWait config.socketPeriod,
    verifyAttemptsSetting.requireAtMost mostAttempts config.verifyAttempts,
    verifyBackoffSetting.requireAtMost longestWait config.verifyBackoff]

/-- The complaint about a key file without name. -/
def keyFileComplaint (config : ServiceConfig) : Option Config.Complaint :=
  config.keyFile.bind keyFileSetting.requireText

/-- All complaints in the order in which they are made. -/
def complaints (config : ServiceConfig) : List (Option Config.Complaint) :=
  config.zeroComplaints ++ config.ceilingComplaints ++ [config.keyFileComplaint]

/-- Check the configuration; the first complaint counts. -/
def validate (config : ServiceConfig) : Except ConfigError Unit :=
  ConfigError.check (Config.firstComplaint config.complaints)

/-- The settings that the values describe. -/
def toSettings (config : ServiceConfig) : ServiceSettings :=
  { runningTimeout := Duration.ofSeconds config.runningTimeout
    pollPeriod := Duration.ofSeconds config.pollPeriod
    catalogLifetime := Duration.ofSeconds config.catalogLifetime
    socketWait :=
      PollPolicy.ofAttempts config.socketAttempts (Duration.ofSeconds config.socketPeriod)
    verification :=
      AttemptPolicy.ofAttempts config.verifyAttempts (Duration.ofSeconds config.verifyBackoff) }

/-- The settings of a valid configuration. -/
def settings (config : ServiceConfig) : Except ConfigError ServiceSettings := do
  config.validate
  pure config.toSettings

/-- The text of a key file. -/
def readKeyFile (files : Files.Tree) (path : String) : Except ConfigError String :=
  match (Files.Path.ofText path).fileName with
  | none => .error (.keyFile path "key file path is missing a filename")
  | some name =>
    (files.readIn (Files.Path.directoryText path) name).mapError fun error =>
      .keyFile path error.message

/-- The key in the configured file, if one is configured. -/
def privateKey (config : ServiceConfig) (files : Files.Tree) : Except ConfigError (Option String) :=
  match config.keyFile with
  | none => .ok none
  | some path => do
    let key ← readKeyFile files path
    ConfigError.check (keyContentsSetting.requireText key)
    pure (some key)

/-- The options with which scripts run under a valid configuration. -/
def runOptions (config : ServiceConfig) (files : Files.Tree) : Except ConfigError RunOptions := do
  let settings ← config.settings
  let key ← config.privateKey files
  pure { privateKey := key, socketWait := settings.socketWait }

/-- Without any change the settings are the usual ones. -/
theorem toSettings_default : toSettings {} = {} := by
  decide

/-- A configuration is valid exactly when there is nothing to complain about. -/
theorem validate_eq_ok_iff (config : ServiceConfig) :
    config.validate = .ok () ↔ ∀ complaint ∈ config.complaints, complaint = none := by
  rw [← Config.firstComplaint_eq_none_iff, validate]
  cases Config.firstComplaint config.complaints <;> simp [ConfigError.check]

end ServiceConfig

end Fleet
