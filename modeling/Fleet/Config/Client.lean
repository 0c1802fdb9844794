import Fleet.Config.Setting
import Fleet.Session.Client

/-!
# Configuration of the local client

The only setting of the client without which it cannot be called is the program.
-/

namespace Fleet.ClientSettings

/-- The names of the client program. -/
def programSetting : Config.Setting :=
  ⟨"ssh executable", "CUMULUS_SSH_SSH_BIN", "ssh_bin"⟩

/-- Check that there is a program to call. -/
def validate (settings : ClientSettings) : Except Config.Complaint Unit :=
  match programSetting.requireText settings.program with
  | none => .ok ()
  | some complaint => .error complaint

end Fleet.ClientSettings
