import Fleet.Activity.Deadline
import Fleet.Activity.Gathered
import Mathlib.Data.List.Forall2

/-!
# The moments of an activity

An activity learns of the world only at its steps: there it meets an instant and a state. What it
meets determines its result, whoever else acts in between. `along` is the result of an activity that
meets given moments, and `moments` are those that a run meets. The moments of a group contain, in
order, those of each of its members, so each member ends as it would end by itself if it met them.
-/

namespace Fleet

/-- What an activity meets at a step. -/
structure Moment (σ : Type) where
  instant : Nat
  state : σ

namespace Activity

variable {σ α β : Type}

/-- The result of an activity that meets these moments at its steps and no others. -/
def along : Activity σ α → List (Moment σ) → Option α
  | done result, [] => some result
  | step _ next, moment :: rest => (next moment.instant moment.state).along rest
  | wait _ next, moments => next.along moments
  | _, _ => none

/-- The moments that an activity meets when it runs by itself. -/
def moments : Activity σ α → Nat → σ → List (Moment σ)
  | done _, _, _ => []
  | step effect next, now, state =>
    ⟨now, state⟩ :: (next now state).moments now (effect now state)
  | wait alarm next, now, state => next.moments (max now alarm.instant) state
  | hang, _, _ => []

@[simp]
theorem along_done_iff
    (result value : α)
    (moments : List (Moment σ)) :
    (done result : Activity σ α).along moments = some value ↔
      moments = [] ∧ value = result := by
  cases moments <;> simp [along, eq_comm]

@[simp]
theorem along_step_nil
    (effect : Nat → σ → σ)
    (next : Nat → σ → Activity σ α) :
    (step effect next).along [] = none := rfl

@[simp]
theorem along_step_cons
    (effect : Nat → σ → σ)
    (next : Nat → σ → Activity σ α)
    (moment : Moment σ)
    (rest : List (Moment σ)) :
    (step effect next).along (moment :: rest) =
      (next moment.instant moment.state).along rest := rfl

@[simp]
theorem along_wait
    (alarm : Alarm)
    (next : Activity σ α)
    (moments : List (Moment σ)) :
    (wait alarm next).along moments = next.along moments := by
  cases moments <;> rfl

@[simp]
theorem along_hang (moments : List (Moment σ)) :
    (hang : Activity σ α).along moments = none := by
  cases moments <;> rfl

theorem along_step_iff
    (effect : Nat → σ → σ)
    (next : Nat → σ → Activity σ α)
    (moments : List (Moment σ))
    (value : α) :
    (step effect next).along moments = some value ↔
      ∃ moment rest, moments = moment :: rest ∧
        (next moment.instant moment.state).along rest = some value := by
  cases moments with
  | nil => simp
  | cons moment rest => simp

/-- A sequence meets the moments of its first part and then those of the second. -/
theorem along_bind_iff
    (activity : Activity σ α)
    (continuation : α → Activity σ β)
    (moments : List (Moment σ))
    (value : β) :
    (activity.bind continuation).along moments = some value ↔
      ∃ early late result, moments = early ++ late ∧ activity.along early = some result ∧
        (continuation result).along late = some value := by
  induction activity generalizing moments with
  | done result => simp [bind]
  | step effect next inductionHypothesis =>
    rw [bind, along_step_iff]
    constructor
    · rintro ⟨moment, rest, rfl, followed⟩
      obtain ⟨early, late, result, rfl, first, second⟩ :=
        (inductionHypothesis _ _ rest).1 followed
      exact ⟨moment :: early, late, result, rfl, first, second⟩
    · rintro ⟨early, late, result, rfl, first, second⟩
      obtain ⟨moment, rest, rfl, followed⟩ := (along_step_iff _ _ _ _).1 first
      exact ⟨moment, rest ++ late, rfl,
        (inductionHypothesis _ _ _).2 ⟨rest, late, result, rfl, followed, second⟩⟩
  | wait alarm next inductionHypothesis => simpa [bind] using inductionHypothesis moments
  | hang => simp [bind]

/-- A run ends as its moments say. -/
theorem along_moments
    {activity : Activity σ α}
    {now later : Nat}
    {state reached : σ}
    {result : α}
    (finished : activity.run now state = some (result, later, reached)) :
    activity.along (activity.moments now state) = some result := by
  induction activity generalizing now state with
  | done value =>
    simp only [run_done, Option.some.injEq, Prod.mk.injEq] at finished
    simp [moments, finished.1]
  | step effect next inductionHypothesis => exact inductionHypothesis _ _ finished
  | wait alarm next inductionHypothesis =>
    rw [moments, along_wait]
    exact inductionHypothesis finished
  | hang => cases finished

/-- Whatever an activity meets at its steps, its result meets a goal. -/
def Yields (goal : α → Prop) : Activity σ α → Prop
  | done result => goal result
  | step _ next => ∀ now state, (next now state).Yields goal
  | wait _ next => next.Yields goal
  | hang => True

namespace Yields

variable {activity : Activity σ α} {goal : α → Prop}

theorem anything (activity : Activity σ α) : activity.Yields fun _ => True := by
  induction activity with
  | done result => trivial
  | step effect next inductionHypothesis => exact inductionHypothesis
  | wait alarm next inductionHypothesis => exact inductionHypothesis
  | hang => trivial

/-- What follows an activity may take its goal for granted. -/
theorem bind
    {continuation : α → Activity σ β}
    {other : β → Prop}
    (yields : activity.Yields goal)
    (onwards : ∀ result, goal result → (continuation result).Yields other) :
    (activity.bind continuation).Yields other := by
  induction activity with
  | done result => exact onwards result yields
  | step effect next inductionHypothesis =>
    exact fun now state => inductionHypothesis now state (yields now state)
  | wait alarm next inductionHypothesis => exact inductionHypothesis yields
  | hang => trivial

/-- A result that is reached along a path meets the goal. -/
theorem of_along
    (yields : activity.Yields goal)
    {moments : List (Moment σ)}
    {result : α}
    (followed : activity.along moments = some result) :
    goal result := by
  induction activity generalizing moments with
  | done value =>
    rcases (along_done_iff _ _ _).1 followed with ⟨_, rfl⟩
    exact yields
  | step effect next inductionHypothesis =>
    rcases (along_step_iff _ _ _ _).1 followed with ⟨moment, rest, _, following⟩
    exact inductionHypothesis _ _ (yields moment.instant moment.state) following
  | wait alarm next inductionHypothesis =>
    rw [along_wait] at followed
    exact inductionHypothesis yields followed
  | hang =>
    rw [along_hang] at followed
    cases followed

theorem of_run
    (yields : activity.Yields goal)
    {now later : Nat}
    {state reached : σ}
    {result : α}
    (finished : activity.run now state = some (result, later, reached)) :
    goal result :=
  yields.of_along (along_moments finished)

end Yields

/-- The answer of an activity under a deadline is its own answer. -/
theorem along_of_along_before
    {activity : Activity σ α}
    {deadline : Nat}
    {moments : List (Moment σ)}
    {result : α}
    (finished : (activity.before deadline).along moments = some (some result)) :
    activity.along moments = some result := by
  induction activity generalizing moments with
  | done value => simpa using finished
  | step effect next inductionHypothesis =>
    rw [before, along_step_iff] at finished
    obtain ⟨moment, rest, rfl, followed⟩ := finished
    exact inductionHypothesis _ _ followed
  | wait alarm next inductionHypothesis =>
    rw [before] at finished
    split at finished
    · rw [along_wait] at finished ⊢
      exact inductionHypothesis finished
    · simp at finished
  | hang => simp [before] at finished

/-- The activity has a result along a stretch of a path. -/
def Occurs (activity : Activity σ α) (path : List (Moment σ)) (result : α) : Prop :=
  ∃ stretch, stretch <:+: path ∧ activity.along stretch = some result

theorem Occurs.of_along
    {activity : Activity σ α}
    {path : List (Moment σ)}
    {result : α}
    (followed : activity.along path = some result) :
    activity.Occurs path result :=
  ⟨path, List.infix_refl path, followed⟩

theorem Occurs.mono
    {activity : Activity σ α}
    {short long : List (Moment σ)}
    {result : α}
    (occurs : activity.Occurs short result)
    (contained : short <:+: long) :
    activity.Occurs long result := by
  rcases occurs with ⟨stretch, inside, followed⟩
  exact ⟨stretch, inside.trans contained, followed⟩

/-- A function of the result changes no path. -/
theorem along_map_iff
    (function : α → β)
    (activity : Activity σ α)
    (moments : List (Moment σ))
    (value : β) :
    (function <$> activity).along moments = some value ↔
      ∃ result, activity.along moments = some result ∧ value = function result := by
  constructor
  · intro followed
    rcases (along_bind_iff _ _ _ _).1 followed with ⟨early, late, result, rfl, first, second⟩
    rcases (along_done_iff _ _ _).1 second with ⟨rfl, rfl⟩
    exact ⟨result, (List.append_nil early).symm ▸ first, rfl⟩
  · rintro ⟨result, followed, rfl⟩
    exact (along_bind_iff _ _ _ _).2
      ⟨moments, [], result, (List.append_nil moments).symm, followed, rfl⟩

theorem occurs_map_iff
    (function : α → β)
    (activity : Activity σ α)
    (path : List (Moment σ))
    (value : β) :
    (function <$> activity).Occurs path value ↔
      ∃ result, activity.Occurs path result ∧ value = function result := by
  constructor
  · rintro ⟨stretch, inside, followed⟩
    rcases (along_map_iff _ _ _ _).1 followed with ⟨result, along, rfl⟩
    exact ⟨result, ⟨stretch, inside, along⟩, rfl⟩
  · rintro ⟨result, ⟨stretch, inside, along⟩, rfl⟩
    exact ⟨stretch, inside, (along_map_iff _ _ _ _).2 ⟨result, along, rfl⟩⟩

end Activity

end Fleet
