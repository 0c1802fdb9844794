import Fleet.Text.Blank

/-!
# Settings

A setting is known to its users in three ways: in words, by an environment variable, and by a key of
the settings file. A complaint about a setting always names all three, so that a reader knows where
to put things right.
-/

namespace Fleet.Config

/-- The name of the settings file. -/
def fileName : String := "cumulus.toml"

/-- The names of a setting. -/
structure Setting where
  /-- What the setting is, in words. -/
  description : String
  /-- The environment variable that sets it. -/
  environment : String
  /-- The key that sets it in the settings file. -/
  key : String
  deriving DecidableEq, Repr

/-- What can be wrong with the value of a setting. -/
inductive Complaint where
  /-- A text is blank. -/
  | missing (setting : Setting)
  /-- A number is zero. -/
  | notPositive (setting : Setting)
  /-- A number lies above its ceiling. -/
  | aboveCeiling (setting : Setting) (ceiling : Nat)
  deriving DecidableEq, Repr

namespace Complaint

/-- The setting that the complaint is about. -/
def setting : Complaint → Setting
  | missing setting | notPositive setting | aboveCeiling setting _ => setting

/-- The wording of the complaint. -/
def message : Complaint → String
  | missing setting =>
    s!"missing {setting.description}: set {setting.environment} or add {setting.key} to {fileName}"
  | notPositive setting =>
    s!"{setting.description} must be greater than zero: set {setting.environment} " ++
      s!"or {setting.key} in {fileName}"
  | aboveCeiling setting ceiling =>
    s!"{setting.description} must be at most {ceiling}: set {setting.environment} " ++
      s!"or {setting.key} in {fileName}"

end Complaint

namespace Setting

/-- Complain when a text is blank. -/
def requireText (setting : Setting) (value : String) : Option Complaint :=
  if Text.isBlankText value then some (.missing setting) else none

/-- Complain when a number is zero. -/
def requirePositive (setting : Setting) (value : Nat) : Option Complaint :=
  if value = 0 then some (.notPositive setting) else none

/-- Complain when a number is above a ceiling. -/
def requireAtMost (setting : Setting) (ceiling value : Nat) : Option Complaint :=
  if ceiling < value then some (.aboveCeiling setting ceiling) else none

@[simp]
theorem requirePositive_eq_none_iff
    (setting : Setting)
    (value : Nat) :
    setting.requirePositive value = none ↔ 0 < value := by
  simp only [requirePositive]
  split <;> simp <;> omega

@[simp]
theorem requireAtMost_eq_none_iff
    (setting : Setting)
    (ceiling value : Nat) :
    setting.requireAtMost ceiling value = none ↔ value ≤ ceiling := by
  simp only [requireAtMost]
  split <;> simp <;> omega

@[simp]
theorem requireText_eq_none_iff
    (setting : Setting)
    (value : String) :
    setting.requireText value = none ↔ Text.isBlankText value = false := by
  simp only [requireText]
  split <;> simp_all

end Setting

/-- The first of some complaints. -/
def firstComplaint (complaints : List (Option Complaint)) : Option Complaint :=
  complaints.findSome? id

@[simp]
theorem firstComplaint_eq_none_iff (complaints : List (Option Complaint)) :
    firstComplaint complaints = none ↔ ∀ complaint ∈ complaints, complaint = none := by
  simp [firstComplaint]

end Fleet.Config
