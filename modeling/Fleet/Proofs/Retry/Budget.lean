import Fleet.Proofs.Retry.Schedule

/-!
# How long a wait can last

The budget of a wait bounds its evaluations, not the pauses between them. A pause that begins within
the budget is slept through to its end, so a wait lasts beyond its budget exactly when an evaluation
fails in time but the pause after it does not end in time. What it lasts beyond the budget is less
than such a pause, apart from the rest of a millisecond.
-/

namespace Fleet.PollPolicy

variable {σ μ : Type}

/-- The evaluation with a number fails before the deadline, and the pause after it lasts beyond the
millisecond of the deadline. -/
def Oversleeps
    (test : μ → Activity σ (Bool × μ))
    (period final : Nat)
    (origin : Stand σ μ)
    (number : Nat)
    (ended : Stand σ μ) :
    Prop :=
  ∃ start, Starts test (Clock.wake · period) origin number start ∧
    Finishes test start false ended ∧ ended.instant < final ∧
    Clock.roundUp final < Clock.wake ended.instant period

variable {test : μ → Activity σ (Bool × μ)} {period final number : Nat}
  {origin start ended reached : Stand σ μ} {answer : Bool}

namespace Stops

/-- Only the pause after a failure in time goes on beyond the millisecond of the deadline. -/
theorem failed_of_late
    (stops : Stops test period final start answer reached)
    (late : Clock.roundUp final < reached.instant) :
    ∃ ended, Finishes test start false ended ∧ ended.instant < final ∧
      reached = { ended with instant := Clock.wake ended.instant period } := by
  cases stops with
  | held _ counts => exact absurd late (Nat.not_lt_of_le counts)
  | exhausted _ _ counts => exact absurd late (Nat.not_lt_of_le counts)
  | overslept failed early _ => exact ⟨_, failed, early, rfl⟩
  | abandoned _ => exact absurd late (Nat.lt_irrefl _)

theorem le_wake (stops : Stops test period final start answer reached) :
    reached.instant ≤ Clock.wake final period := by
  have covered : Clock.roundUp final ≤ Clock.wake final period :=
    Clock.roundUp_mono (Nat.le_add_right _ _)
  rcases Nat.lt_or_ge (Clock.roundUp final) reached.instant with late | inTime
  · obtain ⟨ended, _, early, rfl⟩ := stops.failed_of_late late
    exact Clock.roundUp_mono (Nat.add_le_add_right (Nat.le_of_lt early) _)
  · exact Nat.le_trans inTime covered

end Stops

/-- A wait ends with the pause of an evaluation that oversleeps. -/
theorem EndsWith.of_oversleeps
    (ends : EndsWith test period final origin number answer reached)
    (positive : 0 < period)
    {other : Nat}
    (late : Oversleeps test period final origin other ended) :
    answer = false ∧ reached = { ended with instant := Clock.wake ended.instant period } := by
  obtain ⟨start, starts, failed, early, beyond⟩ := late
  have inTime : start.instant ≤ final := Nat.le_trans failed.le (Nat.le_of_lt early)
  obtain ⟨rfl, stops⟩ := ends.stops starts inTime positive fun again failedAgain => by
    rw [(failedAgain.unique failed).2]
    exact Or.inr (Nat.lt_of_le_of_lt (Clock.le_roundUp final) beyond)
  exact stops.of_failed_early failed early

/-- A wait with a budget within the clock always ends. It lasts beyond the millisecond in which its
budget ends if and only if one of its evaluations oversleeps: it then ends without an answer, when
the pause after that evaluation does. No wait lasts beyond a pause that would begin with the end of
the budget. -/
theorem follow_outlasts_budget_iff_oversleeps
    (policy : PollPolicy)
    (test : μ → Activity σ (Bool × μ))
    (origin : Stand σ μ)
    (positive : 0 < policy.period)
    (represented : (Clock.later origin.instant policy.budget).isSome = true) :
    ∃ answer reached,
      (policy.follow test origin.memory).run origin.instant origin.state =
        some ((answer, reached.memory), reached.instant, reached.state) ∧
      (Clock.roundUp (origin.instant + policy.budget) < reached.instant ↔
        ∃ number ended, Oversleeps test policy.period (origin.instant + policy.budget) origin
          number ended) ∧
      (∀ number ended,
        Oversleeps test policy.period (origin.instant + policy.budget) origin number ended →
          answer = false ∧
            reached = { ended with instant := Clock.wake ended.instant policy.period }) ∧
      reached.instant ≤ Clock.wake (origin.instant + policy.budget) policy.period := by
  obtain ⟨number, answer, reached, ran, ends⟩ := run_follow test origin positive represented
  refine ⟨answer, reached, ran, ⟨fun late => ?_, ?_⟩, ?_, ?_⟩
  · obtain ⟨start, starts, _, stops⟩ := ends
    obtain ⟨ended, failed, early, rfl⟩ := stops.failed_of_late late
    exact ⟨number, ended, start, starts, failed, early, late⟩
  · rintro ⟨other, ended, late⟩
    rw [(ends.of_oversleeps positive late).2]
    obtain ⟨_, _, _, _, beyond⟩ := late
    exact beyond
  · intro other ended late
    exact ends.of_oversleeps positive late
  · obtain ⟨_, _, _, stops⟩ := ends
    exact stops.le_wake

/-- A quarter of a second, looked at every tenth of one. -/
def quarterSecond : PollPolicy :=
  { budget := Duration.ofMilliseconds 250, period := Duration.ofMilliseconds 100 }

/-- A test that is never met. -/
def neverMet (_ : Unit) : Activity Unit (Bool × Unit) :=
  pure (false, ())

theorem starts_neverMet
    {instant woken number : Nat}
    (starts : Starts neverMet (Clock.wake · quarterSecond.period) ⟨0, (), ()⟩ number
      ⟨instant, (), ()⟩)
    (wakes : Clock.wake instant quarterSecond.period = woken) :
    Starts neverMet (Clock.wake · quarterSecond.period) ⟨0, (), ()⟩ (number + 1)
      ⟨woken, (), ()⟩ := by
  have failed : Finishes neverMet ⟨instant, (), ()⟩ false ⟨instant, (), ()⟩ := rfl
  have next := Starts.next starts failed
  rwa [wakes] at next

/-- The pause after the third evaluation lets the wait last 300 milliseconds. -/
theorem quarter_second_is_outlasted :
    0 < quarterSecond.period ∧ (Clock.later 0 quarterSecond.budget).isSome = true ∧
    ((quarterSecond.follow neverMet ()).run 0 ()).map (fun result => (result.1.1, result.2.1)) =
      some (false, Duration.ofMilliseconds 300) ∧
    quarterSecond.budget < Duration.ofMilliseconds 300 := by
  have positive : 0 < quarterSecond.period := by decide
  have represented : (Clock.later 0 quarterSecond.budget).isSome = true := by decide
  obtain ⟨answer, reached, ran, _, oversleeps, _⟩ :=
    follow_outlasts_budget_iff_oversleeps quarterSecond neverMet ⟨0, (), ()⟩
      positive represented
  have second := starts_neverMet .first
    (by decide : Clock.wake 0 quarterSecond.period = Duration.ofMilliseconds 100)
  have third := starts_neverMet second
    (by decide : Clock.wake _ quarterSecond.period = Duration.ofMilliseconds 200)
  obtain ⟨rfl, rfl⟩ := oversleeps 2 ⟨Duration.ofMilliseconds 200, (), ()⟩
    ⟨_, third, rfl, by decide, by decide⟩
  refine ⟨positive, represented, ?_, by decide⟩
  rw [ran]
  rfl

end Fleet.PollPolicy
