import Fleet.Config.Error
import Fleet.Config.Load

/-!
# Configuration of an account

The secret, the project, the zone and the architecture with which an account is used. None of them
may be blank. The configuration comes from the environment only.
-/

namespace Fleet

/-- What is configured of an account. -/
structure ScalewayConfig where
  /-- The name of the access key, for information only. -/
  accessKey : Option String := none
  secretKey : String
  organization : Option String := none
  project : String
  zone : String := "fr-par-1"
  architecture : String := "x86_64"
  deriving DecidableEq, Repr

namespace ScalewayConfig

/-- The names of the secret. -/
def secretKeySetting : Config.Setting :=
  ⟨"Scaleway API secret key", "SCW_SECRET_KEY", "secret_key"⟩

/-- The names of the project. -/
def projectSetting : Config.Setting :=
  ⟨"Scaleway project ID", "SCW_DEFAULT_PROJECT_ID", "default_project_id"⟩

/-- The names of the zone. -/
def zoneSetting : Config.Setting :=
  ⟨"availability zone", "SCW_DEFAULT_ZONE", "default_zone"⟩

/-- The names of the architecture. -/
def architectureSetting : Config.Setting :=
  ⟨"CPU architecture", "SCW_DEFAULT_ARCHITECTURE", "default_architecture"⟩

/-- All complaints in the order in which they are made. -/
def complaints (config : ScalewayConfig) : List (Option Config.Complaint) :=
  [secretKeySetting.requireText config.secretKey, projectSetting.requireText config.project,
    zoneSetting.requireText config.zone, architectureSetting.requireText config.architecture]

/-- Check the configuration; the first complaint counts. -/
def validate (config : ScalewayConfig) : Except ConfigError Unit :=
  ConfigError.check (Config.firstComplaint config.complaints)

/-- The configuration in the environment, if the values without default are there. -/
def load? (environment : Table String) : Option ScalewayConfig := do
  let layers := [Config.Layer.ofEnvironment "SCW_" environment]
  let text := Config.textIn layers
  pure
    { accessKey := ← text "access_key"
      secretKey := ← (← text "secret_key")
      organization := ← text "default_organization_id"
      project := ← (← text "default_project_id")
      zone := (← text "default_zone").getD "fr-par-1"
      architecture := (← text "default_architecture").getD "x86_64" }

/-- The configuration in the environment. -/
def load (environment : Table String) : Except ConfigError ScalewayConfig :=
  (load? environment).elim (.error .unreadable) .ok

end ScalewayConfig

end Fleet
