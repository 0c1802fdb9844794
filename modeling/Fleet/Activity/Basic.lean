import Fleet.Clock

/-!
# Activities

An activity is work that unfolds in time over a shared state. It is finished with a result, or it
acts on the state at the current instant and goes on, or it sleeps until an alarm rings, or it never
finishes. An action takes no time: the clock moves only while activities sleep. An alarm has a place
among the alarms of its instant, which matters only to activities side by side.

Every activity is a finite tree, so functions on activities are structural recursions and statements
about all activities are inductions. `run` follows one activity from an instant and a state to its
result.
-/

namespace Fleet

/-- A part of a larger state. -/
structure Part (τ σ : Type) where
  /-- The part as it is in a whole. -/
  view : τ → σ
  /-- The whole with another part. -/
  update : σ → τ → τ

/-- The first component of a pair. -/
def Part.first (σ ρ : Type) : Part (σ × ρ) σ where
  view whole := whole.1
  update inner whole := (inner, whole.2)

/-- What ends a sleep. -/
structure Alarm where
  /-- When the alarm rings. -/
  instant : Nat
  /-- Alarms of one instant ring in the order of their places. -/
  place : Nat := 0
  deriving DecidableEq, Repr

/-- An alarm rings no later than another one. -/
def Alarm.isDueBy (alarm other : Alarm) : Bool :=
  alarm.instant < other.instant ||
    (alarm.instant == other.instant && alarm.place ≤ other.place)

/-- Work over a state `σ` that ends with a result in `α`. -/
inductive Activity (σ α : Type) where
  /-- The work is finished. -/
  | done (result : α)
  /-- Change the state at the current instant; what follows may depend on the instant and on the
  state as it was before the change. -/
  | step (effect : Nat → σ → σ) (next : Nat → σ → Activity σ α)
  /-- Sleep until an alarm rings; an alarm that is not in the future has rung already. -/
  | wait (alarm : Alarm) (next : Activity σ α)
  /-- Never finish. -/
  | hang

namespace Activity

variable {σ τ α β : Type}

/-- Go on with the result of an activity. -/
def bind : Activity σ α → (α → Activity σ β) → Activity σ β
  | done result, continuation => continuation result
  | step effect next, continuation =>
    step effect fun now state => (next now state).bind continuation
  | wait alarm next, continuation => wait alarm (next.bind continuation)
  | hang, _ => hang

instance : Monad (Activity σ) where
  pure := done
  bind := bind

/-- Act on the state at the current instant and give a result. -/
def perform (action : Nat → σ → α × σ) : Activity σ α :=
  step (fun now state => (action now state).2) fun now state => done (action now state).1

/-- Look at the current instant and state. -/
def observe (view : Nat → σ → α) : Activity σ α :=
  step (fun _ state => state) fun now state => done (view now state)

/-- Change the state. -/
def modify (change : σ → σ) : Activity σ Unit :=
  step (fun _ state => change state) fun _ _ => done ()

/-- The current instant. -/
def currentInstant : Activity σ Nat :=
  observe fun now _ => now

/-- Sleep for a length of time. A timer that rings at once is not waited for. -/
def sleep (duration : Nat) : Activity σ Unit :=
  step (fun _ state => state) fun now _ =>
    if Clock.wake now duration ≤ now then done ()
    else wait ⟨Clock.wake now duration, 0⟩ (done ())

/-- The result, the instant and the state at the end of an activity that starts at an instant in a
state, or nothing when it never finishes. -/
def run : Activity σ α → Nat → σ → Option (α × Nat × σ)
  | done result, now, state => some (result, now, state)
  | step effect next, now, state => (next now state).run now (effect now state)
  | wait alarm next, now, state => next.run (max now alarm.instant) state
  | hang, _, _ => none

/-- An activity on a part of a larger state. -/
def focus (part : Part τ σ) : Activity σ α → Activity τ α
  | done result => done result
  | step effect next =>
    step (fun now whole => part.update (effect now (part.view whole)) whole)
      fun now whole => (next now (part.view whole)).focus part
  | wait alarm next => wait alarm (next.focus part)
  | hang => hang

@[simp]
theorem pure_eq_done (result : α) : (pure result : Activity σ α) = done result := rfl

@[simp]
theorem bind_eq_bind
    (activity : Activity σ α)
    (continuation : α → Activity σ β) :
    (activity >>= continuation) = activity.bind continuation := rfl

@[simp]
theorem bind_done (activity : Activity σ α) : activity.bind done = activity := by
  induction activity with
  | done result => rfl
  | step effect next inductionHypothesis => simp [bind, inductionHypothesis]
  | wait alarm next inductionHypothesis => simp [bind, inductionHypothesis]
  | hang => rfl

theorem bind_assoc
    {γ : Type}
    (activity : Activity σ α)
    (second : α → Activity σ β)
    (third : β → Activity σ γ) :
    (activity.bind second).bind third = activity.bind fun result => (second result).bind third := by
  induction activity with
  | done result => rfl
  | step effect next inductionHypothesis => simp [bind, inductionHypothesis]
  | wait alarm next inductionHypothesis => simp [bind, inductionHypothesis]
  | hang => rfl

instance : LawfulMonad (Activity σ) :=
  LawfulMonad.mk' (Activity σ) bind_done (fun _ _ => rfl) bind_assoc

/-- A sequence runs its first part and then the second from where the first ended. -/
theorem run_bind
    (activity : Activity σ α)
    (continuation : α → Activity σ β)
    (now : Nat)
    (state : σ) :
    (activity.bind continuation).run now state =
      (activity.run now state).bind fun (result, later, reached) =>
        (continuation result).run later reached := by
  induction activity generalizing now state with
  | done result => rfl
  | step effect next inductionHypothesis => simp [bind, run, inductionHypothesis]
  | wait alarm next inductionHypothesis => simp [bind, run, inductionHypothesis]
  | hang => rfl

theorem run_bind_of_run
    {activity : Activity σ α}
    {continuation : α → Activity σ β}
    {result : α}
    {now later : Nat}
    {state reached : σ}
    (ran : activity.run now state = some (result, later, reached)) :
    (activity.bind continuation).run now state = (continuation result).run later reached := by
  rw [run_bind, ran]
  rfl

/-- A sequence that ends has ended its first part. -/
theorem exists_of_run_bind
    {activity : Activity σ α}
    {continuation : α → Activity σ β}
    {value : β}
    {now later : Nat}
    {state reached : σ}
    (finished : (activity.bind continuation).run now state = some (value, later, reached)) :
    ∃ result middle between, activity.run now state = some (result, middle, between) ∧
      (continuation result).run middle between = some (value, later, reached) := by
  rw [run_bind] at finished
  rcases Option.bind_eq_some_iff.1 finished with ⟨⟨result, middle, between⟩, first, second⟩
  exact ⟨result, middle, between, first, second⟩

@[simp]
theorem run_done
    (result : α)
    (now : Nat)
    (state : σ) :
    (done result : Activity σ α).run now state = some (result, now, state) := rfl

@[simp]
theorem run_perform
    (action : Nat → σ → α × σ)
    (now : Nat)
    (state : σ) :
    (perform action).run now state =
      some ((action now state).1, now, (action now state).2) := rfl

@[simp]
theorem run_observe
    (view : Nat → σ → α)
    (now : Nat)
    (state : σ) :
    (observe view).run now state = some (view now state, now, state) := rfl

@[simp]
theorem run_sleep
    (duration now : Nat)
    (state : σ) :
    (sleep duration).run now state = some ((), max now (Clock.wake now duration), state) := by
  by_cases immediate : Clock.wake now duration ≤ now
  · simp [sleep, run, immediate]
  · simp [sleep, run, immediate]

/-- The timer of a sleep never rings early. -/
theorem run_sleep_eq_wake
    (duration now : Nat)
    (state : σ) :
    (sleep duration).run now state = some ((), Clock.wake now duration, state) := by
  rw [run_sleep, Nat.max_eq_right (Clock.le_wake now duration)]

/-- The clock never goes back. -/
theorem le_of_run
    {activity : Activity σ α}
    {now later : Nat}
    {state reached : σ}
    {result : α}
    (finished : activity.run now state = some (result, later, reached)) :
    now ≤ later := by
  induction activity generalizing now state with
  | done value =>
    simp only [run_done, Option.some.injEq, Prod.mk.injEq] at finished
    omega
  | step effect next inductionHypothesis => exact inductionHypothesis _ _ finished
  | wait alarm next inductionHypothesis =>
    have := inductionHypothesis finished
    omega
  | hang => simp [run] at finished

end Activity

end Fleet
