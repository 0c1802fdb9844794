import Fleet.Config.Service
import Fleet.Proofs.Retry.Budget
import Fleet.Proofs.Retry.Timetable

/-!
# Configurations that can be used

A configuration is usable when each of its values lies within its bounds. What is wrong with another
one is a number of faults: values that are zero, values above their ceilings, and a key file without
name, in this order. The check of a configuration accepts exactly the usable ones, and of any other
one it names the first fault.

The bounds are such that nothing is cut off on the way into the settings, and that the wait for a
login port that never opens ends after as many pauses as attempts were configured, with one look
more. The clock stands on whole milliseconds, and is taken to last until the wait is over: a wait
that began between two milliseconds would miss the last look, and a wait beyond the end of the clock
would never end.
-/

namespace Fleet

namespace Config

open Text

/-- A text tells where a setting is made: by which variable, and under which key. -/
def Names (text : String) (setting : Setting) : Prop :=
  containsText text setting.environment = true ∧ containsText text setting.key = true

/-- Every complaint tells where its setting is made. -/
theorem Complaint.names_setting (complaint : Complaint) :
    Names complaint.message complaint.setting := by
  cases complaint with
  | missing setting =>
    show Names ("missing " ++ setting.description ++ ": set " ++
      setting.environment ++ " or add " ++
      setting.key ++ " to " ++ fileName) setting
    constructor <;> grind [containsText_append, containsText_append_self]
  | notPositive setting =>
    show Names (setting.description ++ " must be greater than zero: set " ++ setting.environment ++
      " " ++ ("or " ++ setting.key ++ " in " ++ fileName)) setting
    constructor <;> grind [containsText_append, containsText_append_right,
      containsText_append_self]
  | aboveCeiling setting ceiling =>
    show Names (setting.description ++ " must be at most " ++ toString ceiling ++ ": set " ++
      setting.environment ++ " " ++ ("or " ++ setting.key ++ " in " ++ fileName)) setting
    constructor <;> grind [containsText_append, containsText_append_right,
      containsText_append_self]

theorem names_ofComplaint (complaint : Complaint) :
    Names (ConfigError.ofComplaint complaint).message complaint.setting := by
  obtain ⟨environment, key⟩ := complaint.names_setting
  cases complaint <;>
    exact ⟨containsText_append_right environment _, containsText_append_right key _⟩

end Config

namespace ServiceConfig

/-- Every value lies within its bounds. -/
structure Usable (config : ServiceConfig) : Prop where
  runningTimeout : 0 < config.runningTimeout ∧ config.runningTimeout ≤ longestWait
  pollPeriod : 0 < config.pollPeriod ∧ config.pollPeriod ≤ longestWait
  catalogLifetime : config.catalogLifetime ≤ longestWait
  socketAttempts : 0 < config.socketAttempts ∧ config.socketAttempts ≤ mostAttempts
  socketPeriod : 0 < config.socketPeriod ∧ config.socketPeriod ≤ longestWait
  verifyAttempts : 0 < config.verifyAttempts ∧ config.verifyAttempts ≤ mostAttempts
  verifyBackoff : config.verifyBackoff ≤ longestWait
  keyFile : ∀ path, config.keyFile = some path → Text.isBlankText path = false

/-! ## Faults -/

/-- A number that can be configured. -/
inductive Quantity where
  | runningTimeout
  | pollPeriod
  | catalogLifetime
  | socketAttempts
  | socketPeriod
  | verifyAttempts
  | verifyBackoff
  deriving DecidableEq, Repr

namespace Quantity

def value (config : ServiceConfig) : Quantity → Nat
  | runningTimeout => config.runningTimeout
  | pollPeriod => config.pollPeriod
  | catalogLifetime => config.catalogLifetime
  | socketAttempts => config.socketAttempts
  | socketPeriod => config.socketPeriod
  | verifyAttempts => config.verifyAttempts
  | verifyBackoff => config.verifyBackoff

def setting : Quantity → Config.Setting
  | runningTimeout => runningTimeoutSetting
  | pollPeriod => pollPeriodSetting
  | catalogLifetime => catalogLifetimeSetting
  | socketAttempts => socketAttemptsSetting
  | socketPeriod => socketPeriodSetting
  | verifyAttempts => verifyAttemptsSetting
  | verifyBackoff => verifyBackoffSetting

/-- The place of a number in the order of the settings. -/
def place : Quantity → Nat
  | runningTimeout => 0
  | pollPeriod => 1
  | catalogLifetime => 2
  | socketAttempts => 3
  | socketPeriod => 4
  | verifyAttempts => 5
  | verifyBackoff => 6

def mayBeZero : Quantity → Bool
  | catalogLifetime | verifyBackoff => true
  | _ => false

/-- Attempts have a ceiling of their own; everything else is a time. -/
def ceiling : Quantity → Nat
  | socketAttempts | verifyAttempts => mostAttempts
  | _ => longestWait

end Quantity

/-- What can be wrong with a configuration. -/
inductive Fault where
  | zero (quantity : Quantity)
  | excessive (quantity : Quantity)
  | nameless
  deriving DecidableEq, Repr

namespace Fault

/-- The configuration has the fault. -/
def Affects (config : ServiceConfig) : Fault → Prop
  | zero quantity => quantity.mayBeZero = false ∧ quantity.value config = 0
  | excessive quantity => quantity.ceiling < quantity.value config
  | nameless => config.keyFile.any Text.isBlankText = true

instance (config : ServiceConfig) : DecidablePred (Affects config)
  | zero _ => inferInstanceAs (Decidable (_ ∧ _))
  | excessive _ => inferInstanceAs (Decidable (_ < _))
  | nameless => inferInstanceAs (Decidable (_ = _))

/-- Zeros are looked for before excesses, and those before a key file without name. -/
def stage : Fault → Nat
  | zero _ => 0
  | excessive _ => 1
  | nameless => 2

/-- Faults of one stage are looked for in the order of the settings. -/
def place : Fault → Nat
  | zero quantity | excessive quantity => quantity.place
  | nameless => 0

/-- One fault is looked for earlier than another one. -/
def Before (first second : Fault) : Prop :=
  first.stage < second.stage ∨ first.stage = second.stage ∧ first.place < second.place

instance (first second : Fault) : Decidable (first.Before second) :=
  inferInstanceAs (Decidable (_ ∨ _))

theorem Before.asymm
    {first second : Fault}
    (before : first.Before second) :
    ¬ second.Before first := by
  simp only [Before] at *
  omega

def setting : Fault → Config.Setting
  | zero quantity | excessive quantity => quantity.setting
  | nameless => keyFileSetting

/-- The complaint about the fault. -/
def complaint : Fault → Config.Complaint
  | zero quantity => .notPositive quantity.setting
  | excessive quantity => .aboveCeiling quantity.setting quantity.ceiling
  | nameless => .missing keyFileSetting

/-- The error that reports the fault. -/
def error (fault : Fault) : ConfigError :=
  .ofComplaint fault.complaint

theorem names_setting (fault : Fault) : Config.Names fault.error.message fault.setting := by
  cases fault <;> exact Config.names_ofComplaint _

/-- The complaint about the fault, if the configuration has it. -/
def complaint? (config : ServiceConfig) : Fault → Option Config.Complaint
  | zero quantity => quantity.setting.requirePositive (quantity.value config)
  | excessive quantity => quantity.setting.requireAtMost quantity.ceiling (quantity.value config)
  | nameless => config.keyFileComplaint

/-- The faults that are looked for, one after the other. -/
def sought : List Fault :=
  [zero .runningTimeout, zero .pollPeriod, zero .socketAttempts, zero .socketPeriod,
    zero .verifyAttempts, excessive .runningTimeout, excessive .pollPeriod,
    excessive .catalogLifetime, excessive .socketAttempts, excessive .socketPeriod,
    excessive .verifyAttempts, excessive .verifyBackoff, nameless]

theorem complaints_eq (config : ServiceConfig) :
    config.complaints = sought.map (complaint? config) := rfl

theorem pairwise_sought : sought.Pairwise Before := by
  decide

/-- Nothing but what may be zero is left out. -/
theorem mem_sought_of_affects
    {config : ServiceConfig}
    {fault : Fault}
    (affects : fault.Affects config) :
    fault ∈ sought := by
  cases fault with
  | zero quantity =>
    obtain ⟨needed, _⟩ := affects
    cases quantity <;> first | decide | cases needed
  | excessive quantity => cases quantity <;> decide
  | nameless => decide

theorem complaint?_eq_none_iff
    (config : ServiceConfig)
    {fault : Fault}
    (isSought : fault ∈ sought) :
    fault.complaint? config = none ↔ ¬ fault.Affects config := by
  cases fault with
  | zero quantity =>
    have needed : quantity.mayBeZero = false := by
      revert isSought
      cases quantity <;> decide
    simp [complaint?, Affects, needed, Nat.pos_iff_ne_zero]
  | excessive quantity => simp [complaint?, Affects]
  | nameless => cases named : config.keyFile <;> simp [complaint?, keyFileComplaint, Affects, named]

/-- A fault is complained of in its own words only. -/
theorem eq_of_complaint?_eq_some
    {config : ServiceConfig}
    {fault : Fault}
    {complaint : Config.Complaint}
    (found : fault.complaint? config = some complaint) :
    complaint = fault.complaint := by
  cases fault with
  | zero quantity =>
    simp only [complaint?, Config.Setting.requirePositive] at found
    split at found <;> cases found
    rfl
  | excessive quantity =>
    simp only [complaint?, Config.Setting.requireAtMost] at found
    split at found <;> cases found
    rfl
  | nameless =>
    obtain ⟨path, _, blank⟩ := Option.bind_eq_some_iff.1 found
    simp only [Config.Setting.requireText] at blank
    split at blank <;> cases blank
    rfl

theorem complaint?_of_affects
    {config : ServiceConfig}
    {fault : Fault}
    (affects : fault.Affects config) :
    fault.complaint? config = some fault.complaint := by
  cases found : fault.complaint? config with
  | none =>
    exact absurd affects ((complaint?_eq_none_iff config (mem_sought_of_affects affects)).1 found)
  | some complaint => rw [eq_of_complaint?_eq_some found]

theorem affects_of_complaint?
    {config : ServiceConfig}
    {fault : Fault}
    (isSought : fault ∈ sought)
    {complaint : Config.Complaint}
    (found : fault.complaint? config = some complaint) :
    fault.Affects config := by
  apply Decidable.byContradiction
  intro spared
  rw [(complaint?_eq_none_iff config isSought).2 spared] at found
  cases found

end Fault

/-! ## What the check says -/

variable {config : ServiceConfig}

/-- A configuration is usable exactly when it has none of the faults. -/
theorem usable_iff : config.Usable ↔ ∀ fault : Fault, ¬ fault.Affects config := by
  constructor
  · intro usable fault affects
    cases fault with
    | zero quantity =>
      obtain ⟨needed, zero⟩ := affects
      cases quantity <;> cases needed
      · exact Nat.ne_of_gt usable.runningTimeout.1 zero
      · exact Nat.ne_of_gt usable.pollPeriod.1 zero
      · exact Nat.ne_of_gt usable.socketAttempts.1 zero
      · exact Nat.ne_of_gt usable.socketPeriod.1 zero
      · exact Nat.ne_of_gt usable.verifyAttempts.1 zero
    | excessive quantity =>
      revert affects
      cases quantity
      · exact Nat.not_lt_of_le usable.runningTimeout.2
      · exact Nat.not_lt_of_le usable.pollPeriod.2
      · exact Nat.not_lt_of_le usable.catalogLifetime
      · exact Nat.not_lt_of_le usable.socketAttempts.2
      · exact Nat.not_lt_of_le usable.socketPeriod.2
      · exact Nat.not_lt_of_le usable.verifyAttempts.2
      · exact Nat.not_lt_of_le usable.verifyBackoff
    | nameless =>
      obtain ⟨path, named, blank⟩ := (Option.any_eq_true _ _).1 affects
      rw [usable.keyFile path named] at blank
      cases blank
  · intro faultless
    have positive : ∀ quantity : Quantity, quantity.mayBeZero = false →
        0 < quantity.value config :=
      fun quantity needed => Nat.pos_of_ne_zero fun zero =>
        faultless (.zero quantity) ⟨needed, zero⟩
    have bounded : ∀ quantity : Quantity, quantity.value config ≤ quantity.ceiling :=
      fun quantity => Nat.le_of_not_lt (faultless (.excessive quantity))
    refine ⟨⟨positive .runningTimeout rfl, bounded .runningTimeout⟩,
      ⟨positive .pollPeriod rfl, bounded .pollPeriod⟩, bounded .catalogLifetime,
      ⟨positive .socketAttempts rfl, bounded .socketAttempts⟩,
      ⟨positive .socketPeriod rfl, bounded .socketPeriod⟩,
      ⟨positive .verifyAttempts rfl, bounded .verifyAttempts⟩, bounded .verifyBackoff, ?_⟩
    intro path named
    exact Bool.eq_false_iff.2 fun blank =>
      faultless .nameless ((Option.any_eq_true _ _).2 ⟨path, named, blank⟩)

theorem validate_eq_ok_iff_usable : config.validate = .ok () ↔ config.Usable := by
  rw [validate_eq_ok_iff, Fault.complaints_eq, List.forall_mem_map, usable_iff]
  constructor
  · intro silent fault affects
    have isSought := Fault.mem_sought_of_affects affects
    exact (Fault.complaint?_eq_none_iff config isSought).1 (silent fault isSought) affects
  · intro faultless fault isSought
    exact (Fault.complaint?_eq_none_iff config isSought).2 (faultless fault)

/-- The configuration has a fault and none that is looked for earlier. -/
def HasFirst (config : ServiceConfig) (fault : Fault) : Prop :=
  fault.Affects config ∧ ∀ other : Fault, other.Before fault → ¬ other.Affects config

/-- The first complaint is that about the first fault. -/
theorem firstComplaint_eq_some_iff {complaint : Config.Complaint} :
    Config.firstComplaint config.complaints = some complaint ↔
      ∃ fault, config.HasFirst fault ∧ complaint = fault.complaint := by
  rw [Fault.complaints_eq, Config.firstComplaint, List.findSome?_map, Function.id_comp,
    List.findSome?_eq_some_iff]
  constructor
  · rintro ⟨earlier, fault, later, split, found, silent⟩
    have ordered := Fault.pairwise_sought
    have isSought : fault ∈ Fault.sought := by simp [split]
    refine ⟨fault, ⟨Fault.affects_of_complaint? isSought found, ?_⟩,
      Fault.eq_of_complaint?_eq_some found⟩
    intro other before affects
    have among := Fault.mem_sought_of_affects affects
    rw [split] at among ordered
    rcases List.mem_append.1 among with isEarlier | notEarlier
    · have loud := Fault.complaint?_of_affects affects
      rw [silent other isEarlier] at loud
      cases loud
    · rcases List.mem_cons.1 notEarlier with rfl | isLater
      · exact before.asymm before
      · have after := (List.pairwise_cons.1 (List.pairwise_append.1 ordered).2.1).1 other isLater
        exact after.asymm before
  · rintro ⟨fault, ⟨affects, first⟩, rfl⟩
    obtain ⟨earlier, later, split⟩ := List.append_of_mem (Fault.mem_sought_of_affects affects)
    have ordered := Fault.pairwise_sought
    rw [split] at ordered
    refine ⟨earlier, fault, later, split, Fault.complaint?_of_affects affects, ?_⟩
    intro other isEarlier
    have isSought : other ∈ Fault.sought := by simp [split, isEarlier]
    have before := (List.pairwise_append.1 ordered).2.2 other isEarlier fault List.mem_cons_self
    exact (Fault.complaint?_eq_none_iff config isSought).2 (first other before)

/-- The check fails with the error that reports the first fault, and with no other one. -/
theorem validate_eq_error_iff {error : ConfigError} :
    config.validate = .error error ↔
      ∃ fault, config.HasFirst fault ∧ error = fault.error := by
  have checked : config.validate = .error error ↔ ∃ complaint,
      Config.firstComplaint config.complaints = some complaint ∧
        error = .ofComplaint complaint := by
    rw [validate]
    cases Config.firstComplaint config.complaints <;> simp [ConfigError.check, eq_comm]
  rw [checked]
  constructor
  · rintro ⟨complaint, found, rfl⟩
    obtain ⟨fault, first, rfl⟩ := firstComplaint_eq_some_iff.1 found
    exact ⟨fault, first, rfl⟩
  · rintro ⟨fault, first, rfl⟩
    exact ⟨fault.complaint, firstComplaint_eq_some_iff.2 ⟨fault, first, rfl⟩, rfl⟩

/-! ## What the settings carry -/

/-- The settings are the configured values, in whole seconds. -/
structure Carries (config : ServiceConfig) (settings : ServiceSettings) : Prop where
  runningTimeout : settings.runningTimeout = Duration.ofSeconds config.runningTimeout
  pollPeriod : settings.pollPeriod = Duration.ofSeconds config.pollPeriod
  catalogLifetime : settings.catalogLifetime = Duration.ofSeconds config.catalogLifetime
  socketBudget : settings.socketWait.budget =
    Duration.ofSeconds (config.socketAttempts * config.socketPeriod)
  socketPeriod : settings.socketWait.period = Duration.ofSeconds config.socketPeriod
  verifyAttempts : settings.verification.attempts = config.verifyAttempts
  verifyBackoff : settings.verification.backoff = Duration.ofSeconds config.verifyBackoff

theorem settings_of_usable (usable : config.Usable) :
    config.settings = .ok config.toSettings := by
  rw [settings, validate_eq_ok_iff_usable.2 usable]
  rfl

theorem carries_toSettings (usable : config.Usable) : config.Carries config.toSettings := by
  have times : Duration.ofSeconds config.socketPeriod * config.socketAttempts =
      Duration.ofSeconds (config.socketAttempts * config.socketPeriod) := by
    rw [Duration.ofSeconds, Duration.ofSeconds, Nat.mul_right_comm,
      Nat.mul_comm config.socketPeriod]
  have short : config.socketAttempts * config.socketPeriod ≤ mostAttempts * longestWait :=
    Nat.mul_le_mul usable.socketAttempts.2 usable.socketPeriod.2
  have fits : Duration.ofSeconds config.socketPeriod * config.socketAttempts ≤
      Duration.longest := by
    rw [times]
    exact Nat.le_trans (Nat.mul_le_mul_right _ short) (by decide)
  refine ⟨rfl, rfl, rfl, (Duration.repeated_eq fits).trans times, rfl, ?_, rfl⟩
  exact (AttemptPolicy.attempts_ofAttempts _ _).trans (Nat.max_eq_right usable.verifyAttempts.1)

/-- The socket wait pauses for whole seconds, and has a budget for one pause after each attempt. -/
theorem socketWait_pauses
    (usable : config.Usable) :
    0 < config.toSettings.socketWait.period ∧
    Duration.millisecond ∣ config.toSettings.socketWait.period ∧
    config.toSettings.socketWait.budget =
      config.socketAttempts * Clock.slept config.toSettings.socketWait.period := by
  have carries := carries_toSettings usable
  have week : config.socketPeriod ≤ longestWait := usable.socketPeriod.2
  have unshortened : Clock.slept config.toSettings.socketWait.period =
      Duration.ofSeconds config.socketPeriod := by
    rw [carries.socketPeriod]
    exact Clock.slept_eq (Nat.le_trans (Nat.mul_le_mul_right _ week) (by decide))
  refine ⟨?_, ?_, ?_⟩
  · rw [carries.socketPeriod]
    exact Nat.mul_pos usable.socketPeriod.1 (by decide)
  · rw [carries.socketPeriod]
    exact Nat.dvd_mul_left_of_dvd (by decide) _
  · rw [carries.socketBudget, unshortened, Duration.ofSeconds, Duration.ofSeconds, Nat.mul_assoc]

open PollPolicy

variable {σ μ : Type} {test : μ → Activity σ (Bool × μ)} {origin : Stand σ μ}

/-- In vain, a wait for a login port that begins where the clock stands looks once more than it
pauses, and ends with its budget. -/
theorem socketWait_timesOut
    (usable : config.Usable)
    (fails : FailsAtOnce test)
    (stands : Clock.Stands origin.instant)
    (represented : (Clock.later origin.instant config.toSettings.socketWait.budget).isSome = true) :
    config.toSettings.socketWait.TimesOut test origin
      (origin.instant + Duration.ofSeconds (config.socketAttempts * config.socketPeriod))
      (config.socketAttempts + 1) := by
  obtain ⟨positive, wholePeriod, budgeted⟩ := socketWait_pauses usable
  rw [← (carries_toSettings usable).socketBudget]
  exact fails.timesOut positive budgeted represented wholePeriod ((Clock.stands_iff _).1 stands)

/-- From within a millisecond, the same wait would begin with the next one, and miss its last
look. -/
theorem socketWait_timesOut_within_millisecond
    (usable : config.Usable)
    (fails : FailsAtOnce test)
    (between : ¬ Clock.Stands origin.instant)
    (represented : (Clock.later origin.instant config.toSettings.socketWait.budget).isSome = true) :
    config.toSettings.socketWait.TimesOut test origin
      (Clock.roundUp origin.instant +
        Duration.ofSeconds (config.socketAttempts * config.socketPeriod))
      config.socketAttempts := by
  obtain ⟨positive, wholePeriod, budgeted⟩ := socketWait_pauses usable
  obtain ⟨pauses, same⟩ := Nat.exists_eq_add_of_lt usable.socketAttempts.1
  rw [Nat.zero_add] at same
  have within := (not_congr (Clock.stands_iff _)).1 between
  rw [← (carries_toSettings usable).socketBudget, same]
  rw [same] at budgeted
  exact fails.timesOut_within_millisecond positive budgeted represented wholePeriod within

end ServiceConfig

end Fleet
