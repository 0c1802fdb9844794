import Fleet.Activity.Basic

/-!
# Deadlines

An activity under a deadline is cut off at the first sleep that would outlast it. Work that finishes
exactly at the deadline still counts, because the activity is looked at before the timer. Cutting is
structural: the tree of the bounded activity is the tree of the activity with its late branches
replaced.
-/

namespace Fleet.Activity

variable {σ α : Type}

/-- The result of an activity, or nothing from the deadline on when it has not finished by then. -/
def before (deadline : Nat) : Activity σ α → Activity σ (Option α)
  | done result => done (some result)
  | step effect next => step effect fun now state => (next now state).before deadline
  | wait alarm next =>
    if alarm.instant ≤ deadline then wait alarm (next.before deadline)
    else wait ⟨deadline, 0⟩ (done none)
  | hang => wait ⟨deadline, 0⟩ (done none)

/-- The result of an activity that is given a length of time from now. -/
def limited (budget : Nat) (activity : Activity σ α) : Activity σ (Option α) :=
  step (fun _ state => state) fun now _ => activity.before (Clock.ring now budget)

@[simp]
theorem before_done
    (deadline : Nat)
    (result : α) :
    (done result : Activity σ α).before deadline = done (some result) := rfl

/-- A bounded activity always finishes, and no later than the deadline or the instant at which it
starts, whichever comes last. -/
theorem run_before
    (activity : Activity σ α)
    (deadline now : Nat)
    (state : σ) :
    ∃ answer later reached,
      (activity.before deadline).run now state = some (answer, later, reached) ∧
      later ≤ max now deadline := by
  induction activity generalizing now state with
  | done result => exact ⟨some result, now, state, rfl, by omega⟩
  | step effect next inductionHypothesis =>
    obtain ⟨answer, later, reached, finished, bound⟩ :=
      inductionHypothesis now state now (effect now state)
    exact ⟨answer, later, reached, finished, bound⟩
  | wait alarm next inductionHypothesis =>
    by_cases early : alarm.instant ≤ deadline
    · obtain ⟨answer, later, reached, finished, bound⟩ :=
        inductionHypothesis (max now alarm.instant) state
      exact ⟨answer, later, reached, by simpa [before, early, run] using finished, by omega⟩
    · exact ⟨none, max now deadline, state, by simp [before, early, run], by omega⟩
  | hang => exact ⟨none, max now deadline, state, rfl, by omega⟩

/-- When the bounded activity gives an answer, it is the answer of the activity itself, at the same
instant and in the same state. -/
theorem run_of_run_before
    {activity : Activity σ α}
    {deadline now later : Nat}
    {state reached : σ}
    {result : α}
    (finished : (activity.before deadline).run now state = some (some result, later, reached)) :
    activity.run now state = some (result, later, reached) := by
  induction activity generalizing now state with
  | done value => simpa [before] using finished
  | step effect next inductionHypothesis => exact inductionHypothesis _ _ finished
  | wait alarm next inductionHypothesis =>
    by_cases early : alarm.instant ≤ deadline
    · exact inductionHypothesis (by simpa [before, early, run] using finished)
    · simp [before, early, run] at finished
  | hang => simp [before, run] at finished

/-- An activity that is cut off ends at the deadline, or at once when that has passed. -/
theorem instant_of_run_before
    {activity : Activity σ α}
    {deadline now later : Nat}
    {state reached : σ}
    (cut : (activity.before deadline).run now state = some (none, later, reached)) :
    later = max now deadline := by
  induction activity generalizing now state with
  | done value => cases cut
  | step effect next inductionHypothesis => exact inductionHypothesis _ _ cut
  | wait alarm next inductionHypothesis =>
    by_cases early : alarm.instant ≤ deadline
    · rw [before, if_pos early] at cut
      have resumed : (next.before deadline).run (max now alarm.instant) state =
          some (none, later, reached) := cut
      have ended := inductionHypothesis resumed
      omega
    · rw [before, if_neg early] at cut
      cases cut
      rfl
  | hang =>
    cases cut
    rfl

/-- An activity that finishes by the deadline is not cut off. -/
theorem run_before_of_run
    {activity : Activity σ α}
    {deadline now later : Nat}
    {state reached : σ}
    {result : α}
    (finished : activity.run now state = some (result, later, reached))
    (inTime : later ≤ deadline) :
    (activity.before deadline).run now state = some (some result, later, reached) := by
  induction activity generalizing now state with
  | done value =>
    cases finished
    rfl
  | step effect next inductionHypothesis => exact inductionHypothesis _ _ finished
  | wait alarm next inductionHypothesis =>
    have resumed : next.run (max now alarm.instant) state = some (result, later, reached) :=
      finished
    have awake := le_of_run resumed
    rw [before, if_pos (by omega)]
    exact inductionHypothesis resumed
  | hang => cases finished

end Fleet.Activity
