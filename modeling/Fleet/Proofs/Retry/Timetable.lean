import Fleet.Proofs.Activity.Focus
import Fleet.Proofs.Retry.Schedule

/-!
# When a wait is answered

On whole milliseconds no timer rings late, so the evaluations of a wait follow each other at the
distance of a pause, and the budget ends exactly at its deadline. A wait is answered exactly when
all evaluations before one have failed and that one holds by the deadline, the deadline itself
included. An evaluation that still runs then is abandoned.

The evaluations that are started are counted beside the state, where a count survives an evaluation
that is abandoned.

A test that fails at once takes no time of its own, so a wait for it consists of pauses. When the
budget is a whole number of pauses, the last evaluation falls on the deadline and still counts:
there is one evaluation more than there are pauses, and the wait ends with the budget. This is so
for a wait that begins where the clock stands, on a whole millisecond. From within a millisecond the
first pause would last until the next one begins and then its full length, so the last pause would
end past the deadline, and the evaluation on it would be missing.
-/

namespace Fleet.PollPolicy

variable {σ μ : Type}

/-! ## Counting evaluations -/

/-- A test that counts its evaluations. -/
def counted (test : μ → Activity σ (Bool × μ)) (memory : μ) :
    Activity (σ × Nat) (Bool × μ) := do
  Activity.modify fun whole => (whole.1, whole.2 + 1)
  (test memory).focus (Part.first σ Nat)

/-- A place with the number of evaluations that have been started. -/
def Stand.counting (stand : Stand σ μ) (count : Nat) : Stand (σ × Nat) μ where
  instant := stand.instant
  state := (stand.state, count)
  memory := stand.memory

variable {test : μ → Activity σ (Bool × μ)} {resume : Nat → Nat}
  {period final number count : Nat}
  {origin start ended : Stand σ μ} {answer : Bool}

/-- Counting changes nothing about an evaluation. -/
theorem run_counted
    (memory : μ)
    (now : Nat)
    (state : σ) :
    (counted test memory).run now (state, count) =
      ((test memory).run now state).map fun (result, later, reached) =>
        (result, later, reached, count + 1) :=
  Activity.run_focus_first _ _ _ _

theorem run_before_counted
    (memory : μ)
    (deadline now : Nat)
    (state : σ) :
    ((counted test memory).before deadline).run now (state, count) =
      (((test memory).before deadline).run now state).map fun (result, later, reached) =>
        (result, later, reached, count + 1) := by
  have evaluated := Activity.run_focus_first ((test memory).before deadline) now state (count + 1)
  rw [← Activity.focus_before] at evaluated
  exact evaluated

theorem Finishes.of_counted
    {ended : Stand (σ × Nat) μ}
    (finishes : Finishes (counted test) (start.counting count) answer ended) :
    ∃ plain, Finishes test start answer plain ∧ ended = plain.counting (count + 1) := by
  rw [Finishes, Stand.counting, run_counted] at finishes
  obtain ⟨⟨result, later, reached⟩, ran, same⟩ := Option.map_eq_some_iff.1 finishes
  obtain ⟨instant, state, memory⟩ := ended
  cases same
  exact ⟨⟨instant, reached, memory⟩, ran, rfl⟩

theorem Starts.of_counted
    {start : Stand (σ × Nat) μ}
    (starts : Starts (counted test) resume (origin.counting 0) number start) :
    ∃ plain, Starts test resume origin number plain ∧ start = plain.counting number := by
  induction starts with
  | first => exact ⟨origin, .first, rfl⟩
  | next _ failed inductionHypothesis =>
    obtain ⟨plain, starts, rfl⟩ := inductionHypothesis
    obtain ⟨ended, fails, rfl⟩ := failed.of_counted
    exact ⟨{ ended with instant := resume ended.instant }, starts.next fails, rfl⟩

/-- A wait that counts its evaluations stops where the same wait stops without counting. -/
theorem Stops.of_counted
    {reached : Stand (σ × Nat) μ}
    (stops : Stops (counted test) period final (start.counting count) answer reached) :
    ∃ plain, Stops test period final start answer plain ∧
      reached = plain.counting (count + 1) := by
  cases stops with
  | held holds counts =>
    obtain ⟨ended, held, rfl⟩ := holds.of_counted
    exact ⟨ended, .held held counts, rfl⟩
  | exhausted failed spent counts =>
    obtain ⟨ended, fails, rfl⟩ := failed.of_counted
    exact ⟨ended, .exhausted fails spent counts, rfl⟩
  | overslept failed early late =>
    obtain ⟨ended, fails, rfl⟩ := failed.of_counted
    exact ⟨{ ended with instant := Clock.wake ended.instant period },
      .overslept fails early late, rfl⟩
  | abandoned cut =>
    rw [Stand.counting, run_before_counted] at cut
    obtain ⟨⟨result, later, left⟩, ran, same⟩ := Option.map_eq_some_iff.1 cut
    cases same
    exact ⟨⟨Clock.roundUp final, left, start.memory⟩, .abandoned ran, rfl⟩

theorem EndsWith.of_counted
    {reached : Stand (σ × Nat) μ}
    (ends : EndsWith (counted test) period final (origin.counting 0) number answer reached) :
    ∃ plain, EndsWith test period final origin number answer plain ∧
      reached = plain.counting (number + 1) := by
  obtain ⟨_, started, inTime, stopped⟩ := ends
  obtain ⟨start, starts, rfl⟩ := started.of_counted
  obtain ⟨plain, stops, rfl⟩ := stopped.of_counted
  exact ⟨plain, ⟨start, starts, inTime, stops⟩, rfl⟩

/-- A wait ends with the same evaluation whether or not its evaluations are counted. -/
theorem run_follow_counted
    {policy : PollPolicy}
    (test : μ → Activity σ (Bool × μ))
    (origin : Stand σ μ)
    (positive : 0 < policy.period)
    (represented : (Clock.later origin.instant policy.budget).isSome = true) :
    ∃ number answer reached,
      (policy.follow test origin.memory).run origin.instant origin.state =
        some ((answer, reached.memory), reached.instant, reached.state) ∧
      (policy.follow (counted test) origin.memory).run origin.instant (origin.state, 0) =
        some ((answer, reached.memory), reached.instant, (reached.state, number + 1)) ∧
      EndsWith test policy.period (origin.instant + policy.budget) origin number
        answer reached := by
  obtain ⟨number, answer, reached, ran, ends⟩ := run_follow test origin positive represented
  obtain ⟨_, _, _, counting, countedEnds⟩ :=
    run_follow (counted test) (origin.counting 0) positive represented
  obtain ⟨plain, plainEnds, rfl⟩ := countedEnds.of_counted
  obtain ⟨rfl, rfl, rfl⟩ := ends.unique plainEnds positive
  exact ⟨number, answer, reached, ran, counting, ends⟩

/-- An evaluation that starts within the budget, and leaves no time when it fails, is the last one:
the wait stops with it, and has counted up to it. -/
theorem Starts.run_follow
    {policy : PollPolicy}
    (starts : Starts test (Clock.wake · policy.period) origin number start)
    (positive : 0 < policy.period)
    (represented : (Clock.later origin.instant policy.budget).isSome = true)
    (inTime : start.instant ≤ origin.instant + policy.budget)
    (last : ∀ ended, Finishes test start false ended →
      origin.instant + policy.budget ≤ ended.instant ∨
        origin.instant + policy.budget < Clock.wake ended.instant policy.period) :
    ∃ answer reached,
      (policy.follow test origin.memory).run origin.instant origin.state =
        some ((answer, reached.memory), reached.instant, reached.state) ∧
      (policy.follow (counted test) origin.memory).run origin.instant (origin.state, 0) =
        some ((answer, reached.memory), reached.instant, (reached.state, number + 1)) ∧
      Stops test policy.period (origin.instant + policy.budget) start answer reached := by
  obtain ⟨_, answer, reached, ran, counting, ends⟩ :=
    run_follow_counted test origin positive represented
  obtain ⟨rfl, stops⟩ := ends.stops starts inTime positive last
  exact ⟨answer, reached, ran, counting, stops⟩

/-! ## Whole milliseconds -/

/-- Evaluations start on whole milliseconds when the first one does. -/
theorem Starts.dvd_instant
    (starts : Starts test (Clock.wake · period) origin number start)
    (wholeOrigin : Duration.millisecond ∣ origin.instant) :
    Duration.millisecond ∣ start.instant := by
  cases starts with
  | first => exact wholeOrigin
  | next => exact Clock.dvd_roundUp _

/-- The evaluation with a number starts somewhere, when each evaluation follows the one before at
the distance of a pause. -/
abbrev Timetable
    (test : μ → Activity σ (Bool × μ))
    (pause : Nat)
    (origin : Stand σ μ) :
    Nat → Stand σ μ → Prop :=
  Starts test (· + pause) origin

/-- Every evaluation of a timetable ends on a whole millisecond. -/
def EndsWhole (test : μ → Activity σ (Bool × μ)) (pause : Nat) (origin : Stand σ μ) :
    Prop :=
  ∀ number start answer ended, Timetable test pause origin number start →
    Finishes test start answer ended → Duration.millisecond ∣ ended.instant

/-- On whole milliseconds a wait keeps to its timetable. -/
theorem starts_iff_timetable
    (wholePeriod : Duration.millisecond ∣ period)
    (wholeTest : EndsWhole test (Clock.slept period) origin) :
    Starts test (Clock.wake · period) origin number start ↔
      Timetable test (Clock.slept period) origin number start := by
  constructor
  · intro starts
    induction starts with
    | first => exact .first
    | next _ failed inductionHypothesis =>
      rw [Clock.wake_eq (wholeTest _ _ _ _ inductionHypothesis failed) wholePeriod]
      exact .next inductionHypothesis failed
  · intro starts
    induction starts with
    | first => exact .first
    | next starts failed inductionHypothesis =>
      have woken := Starts.next inductionHypothesis failed
      rwa [Clock.wake_eq (wholeTest _ _ _ _ starts failed) wholePeriod] at woken

/-- A wait whose budget ends within the clock always ends. On whole milliseconds it starts at most
as many evaluations as pauses fit into the budget, and one more. Its answer is true if and only if
an evaluation of its timetable holds by the deadline, and it then ends with that evaluation; with an
evaluation that has not finished by the deadline it ends there. -/
theorem follow_true_iff_held_by_deadline
    (policy : PollPolicy)
    (test : μ → Activity σ (Bool × μ))
    (origin : Stand σ μ)
    (positive : 0 < policy.period)
    (represented : (Clock.later origin.instant policy.budget).isSome = true)
    (wholeOrigin : Duration.millisecond ∣ origin.instant)
    (wholeBudget : Duration.millisecond ∣ policy.budget)
    (wholePeriod : Duration.millisecond ∣ policy.period)
    (wholeTest : EndsWhole test (Clock.slept policy.period) origin) :
    ∃ answer reached count,
      (policy.follow test origin.memory).run origin.instant origin.state =
        some ((answer, reached.memory), reached.instant, reached.state) ∧
      (policy.follow (counted test) origin.memory).run origin.instant (origin.state, 0) =
        some ((answer, reached.memory), reached.instant, (reached.state, count)) ∧
      count ≤ policy.budget / Clock.slept policy.period + 1 ∧
      (answer = true ↔ ∃ number start ended,
        Timetable test (Clock.slept policy.period) origin number start ∧
        Finishes test start true ended ∧ ended.instant ≤ origin.instant + policy.budget) ∧
      (∀ number start ended, Timetable test (Clock.slept policy.period) origin number start →
        Finishes test start true ended → ended.instant ≤ origin.instant + policy.budget →
          reached = ended ∧ count = number + 1) ∧
      (∀ number start, Timetable test (Clock.slept policy.period) origin number start →
        start.instant ≤ origin.instant + policy.budget →
        (∀ other ended, Finishes test start other ended →
          origin.instant + policy.budget < ended.instant) →
        answer = false ∧ reached.instant = origin.instant + policy.budget ∧
          count = number + 1) := by
  have deadline : Clock.roundUp (origin.instant + policy.budget) =
      origin.instant + policy.budget := Clock.roundUp_eq (Nat.dvd_add wholeOrigin wholeBudget)
  have keeps : ∀ {number start}, Starts test (Clock.wake · policy.period) origin number start ↔
      Timetable test (Clock.slept policy.period) origin number start :=
    starts_iff_timetable wholePeriod wholeTest
  obtain ⟨number, answer, reached, ran, counting, ends⟩ :=
    run_follow_counted test origin positive represented
  have held : ∀ other start ended,
      Timetable test (Clock.slept policy.period) origin other start →
      Finishes test start true ended → ended.instant ≤ origin.instant + policy.budget →
        answer = true ∧ reached = ended ∧ number + 1 = other + 1 := by
    intro other start ended starts holds inTime
    obtain ⟨rfl, stops⟩ := ends.stops (keeps.2 starts) (Nat.le_trans holds.le inTime) positive
      fun again failed => by cases (holds.unique failed).1
    obtain ⟨answered, same⟩ := stops.of_holds holds (deadline.symm ▸ inTime)
    exact ⟨answered, same, rfl⟩
  refine ⟨answer, reached, number + 1, ran, counting, ?_, ⟨?_, ?_⟩, ?_, ?_⟩
  · obtain ⟨start, starts, inTime, _⟩ := ends
    have spaced := (keeps.1 starts).spaced fun _ => Nat.le_refl _
    have fits : number * Clock.slept policy.period ≤ policy.budget := by omega
    exact Nat.succ_le_succ ((Nat.le_div_iff_mul_le (Clock.slept_pos positive)).2 fits)
  · rintro rfl
    obtain ⟨start, starts, inTime, stops⟩ := ends
    cases stops with
    | held holds counts =>
      exact ⟨number, start, reached, keeps.1 starts, holds, deadline ▸ counts⟩
  · rintro ⟨other, start, ended, starts, holds, inTime⟩
    exact (held other start ended starts holds inTime).1
  · intro other start ended starts holds inTime
    exact (held other start ended starts holds inTime).2
  · intro other start starts inTime unfinished
    obtain ⟨rfl, stops⟩ := ends.stops (keeps.2 starts) inTime positive
      fun ended failed => Or.inl (Nat.le_of_lt (unfinished false ended failed))
    obtain ⟨refused, same⟩ := stops.of_unfinished (deadline.symm ▸ unfinished)
    exact ⟨refused, same.trans deadline, rfl⟩

/-- A test that fails after thirty milliseconds at first and holds after fifty from then on. -/
def warmingUp (warm : Bool) : Activity Unit (Bool × Bool) := do
  Activity.sleep (Duration.ofMilliseconds (if warm then 50 else 30))
  pure (warm, true)

theorem run_warmingUp
    (warm : Bool)
    (now : Nat) :
    (warmingUp warm).run now () =
      some ((warm, true),
        Clock.wake now (Duration.ofMilliseconds (if warm then 50 else 30)), ()) := by
  have ahead : ∀ duration, now ≤ Clock.wake now duration := fun duration =>
    Nat.le_trans (Nat.le_add_right _ _) (Clock.le_roundUp _)
  simp [warmingUp, Activity.run_bind, ahead]

/-- The budget of the second evaluation of `warmingUp`, to the millisecond. -/
def toTheMillisecond : PollPolicy :=
  { budget := Duration.ofMilliseconds 180, period := Duration.ofMilliseconds 100 }

/-- An evaluation that holds exactly at the deadline counts. -/
theorem answered_at_the_deadline :
    EndsWhole warmingUp (Clock.slept toTheMillisecond.period) ⟨0, (), false⟩ ∧
    ((toTheMillisecond.follow (counted warmingUp) false).run 0 ((), 0)).map
      (fun result => (result.1.1, result.2.1, result.2.2.2)) =
        some (true, Duration.ofMilliseconds 180, 2) := by
  have endsWhole :
      EndsWhole warmingUp (Clock.slept toTheMillisecond.period) ⟨0, (), false⟩ := by
    intro number start answer ended _ finishes
    rw [Finishes, run_warmingUp] at finishes
    cases ended
    cases finishes
    exact Clock.dvd_roundUp _
  obtain ⟨answer, reached, count, _, counting, _, holds, held, _⟩ :=
    follow_true_iff_held_by_deadline toTheMillisecond warmingUp ⟨0, (), false⟩ (by decide)
      (by decide) (by decide) (by decide) (by decide) endsWhole
  have first :
      Finishes warmingUp ⟨0, (), false⟩ false ⟨Duration.ofMilliseconds 30, (), true⟩ :=
    run_warmingUp false 0
  have second : Timetable warmingUp (Clock.slept toTheMillisecond.period) ⟨0, (), false⟩ 1
      ⟨Duration.ofMilliseconds 130, (), true⟩ := Starts.next .first first
  have met : Finishes warmingUp ⟨Duration.ofMilliseconds 130, (), true⟩ true
      ⟨Duration.ofMilliseconds 180, (), true⟩ := run_warmingUp true _
  obtain ⟨rfl, rfl⟩ := held 1 _ _ second met (by decide)
  obtain rfl := holds.2 ⟨1, _, _, second, met, by decide⟩
  refine ⟨endsWhole, ?_⟩
  rw [counting]
  rfl

/-- A test that holds when it is evaluated again. -/
def heldAgain (again : Bool) : Activity Unit (Bool × Bool) :=
  pure (again, true)

/-- A budget and a period of thirty years and one second. -/
def beyondTheLongestSleep : PollPolicy :=
  { budget := Duration.ofSeconds 946080001, period := Duration.ofSeconds 946080001 }

/-- No sleep lasts longer than thirty years, so the second evaluation comes a second before the
period has passed. -/
theorem answered_before_the_period :
    0 < beyondTheLongestSleep.period ∧
    (Clock.later 0 beyondTheLongestSleep.budget).isSome = true ∧
    Timetable heldAgain beyondTheLongestSleep.period ⟨0, (), false⟩ 1
      ⟨Duration.ofSeconds 946080001, (), true⟩ ∧
    Finishes heldAgain ⟨Duration.ofSeconds 946080001, (), true⟩ true
      ⟨Duration.ofSeconds 946080001, (), true⟩ ∧
    Duration.ofSeconds 946080001 ≤ 0 + beyondTheLongestSleep.budget ∧
    ((beyondTheLongestSleep.follow heldAgain false).run 0 ()).map
      (fun result => (result.1.1, result.2.1)) = some (true, Duration.ofSeconds 946080000) ∧
    Duration.ofSeconds 946080000 ≠ Duration.ofSeconds 946080001 := by
  have first : Finishes heldAgain ⟨0, (), false⟩ false ⟨0, (), true⟩ := rfl
  have second : Timetable heldAgain beyondTheLongestSleep.period ⟨0, (), false⟩ 1
      ⟨Duration.ofSeconds 946080001, (), true⟩ := Starts.next .first first
  refine ⟨by decide, by decide, second, rfl, by decide, ?_, by decide⟩
  decide +kernel

/-! ## Waits in vain -/

/-- Wherever an evaluation starts, it fails there and then. -/
def FailsAtOnce (test : μ → Activity σ (Bool × μ)) : Prop :=
  ∀ start : Stand σ μ, ∃ ended,
    Finishes test start false ended ∧ ended.instant = start.instant

/-- A wait ends without success at an instant, after a number of evaluations. -/
def TimesOut
    (policy : PollPolicy)
    (test : μ → Activity σ (Bool × μ))
    (origin : Stand σ μ)
    (final : Nat)
    (count : Nat) :
    Prop :=
  ∃ memory reached,
    (policy.follow test origin.memory).run origin.instant origin.state =
      some ((false, memory), final, reached) ∧
    (policy.follow (counted test) origin.memory).run origin.instant (origin.state, 0) =
      some ((false, memory), final, (reached, count))

namespace FailsAtOnce

variable (fails : FailsAtOnce test)

include fails

theorem instant_eq
    (finishes : Finishes test start answer ended) :
    ended.instant = start.instant := by
  obtain ⟨other, failed, same⟩ := fails start
  rw [(finishes.unique failed).2, same]

theorem exists_starts
    (resume : Nat → Nat)
    (number : Nat)
    (origin : Stand σ μ) :
    ∃ start, Starts test resume origin number start := by
  induction number with
  | zero => exact ⟨origin, .first⟩
  | succ number inductionHypothesis =>
    obtain ⟨start, starts⟩ := inductionHypothesis
    obtain ⟨ended, failed, _⟩ := fails start
    exact ⟨_, .next starts failed⟩

/-- The milliseconds in which the evaluations start follow each other at the distance of a pause. -/
theorem roundUp_instant
    (wholePeriod : Duration.millisecond ∣ period)
    (starts : Starts test (Clock.wake · period) origin number start) :
    Clock.roundUp start.instant =
      Clock.roundUp origin.instant + number * Clock.slept period := by
  induction starts with
  | first => rw [Nat.zero_mul, Nat.add_zero]
  | @next _ _ ended _ failed inductionHypothesis =>
    have whole : Duration.millisecond ∣ Clock.wake ended.instant period := Clock.dvd_roundUp _
    rw [Clock.roundUp_eq whole, Clock.wake_eq_roundUp _ wholePeriod, fails.instant_eq failed,
      inductionHypothesis, Nat.succ_mul, Nat.add_assoc]

/-- On a whole millisecond, a wait with a budget for a number of pauses makes them all. It makes one
evaluation more, and ends with its budget. -/
theorem timesOut
    {policy : PollPolicy}
    {pauses : Nat}
    (positive : 0 < policy.period)
    (budgeted : policy.budget = pauses * Clock.slept policy.period)
    (represented : (Clock.later origin.instant policy.budget).isSome = true)
    (wholePeriod : Duration.millisecond ∣ policy.period)
    (wholeOrigin : Duration.millisecond ∣ origin.instant) :
    policy.TimesOut test origin (origin.instant + policy.budget) (pauses + 1) := by
  obtain ⟨start, starts⟩ := fails.exists_starts (Clock.wake · policy.period) pauses origin
  have whole : Duration.millisecond ∣ start.instant := starts.dvd_instant wholeOrigin
  have onDeadline : start.instant = origin.instant + policy.budget := by
    rw [budgeted, ← Clock.roundUp_eq whole, fails.roundUp_instant wholePeriod starts,
      Clock.roundUp_eq wholeOrigin]
  obtain ⟨answer, reached, ran, counting, stops⟩ := starts.run_follow positive represented
    (Nat.le_of_eq onDeadline) fun other failed =>
      Or.inl (by rw [fails.instant_eq failed]; exact Nat.le_of_eq onDeadline.symm)
  obtain ⟨ended, failed, same⟩ := fails start
  have endsOnDeadline := same.trans onDeadline
  obtain ⟨rfl, rfl⟩ := stops.of_failed_at_end failed (Nat.le_of_eq endsOnDeadline.symm)
    (Nat.le_trans (Nat.le_of_eq endsOnDeadline) (Clock.le_roundUp _))
  rw [← endsOnDeadline]
  exact ⟨reached.memory, reached.state, ran, counting⟩

/-- Within a millisecond, the pauses of such a wait begin with the next one. The last of them
outlasts the budget by the rest of the millisecond, and no evaluation comes after it. -/
theorem timesOut_within_millisecond
    {policy : PollPolicy}
    {pauses : Nat}
    (positive : 0 < policy.period)
    (budgeted : policy.budget = (pauses + 1) * Clock.slept policy.period)
    (represented : (Clock.later origin.instant policy.budget).isSome = true)
    (wholePeriod : Duration.millisecond ∣ policy.period)
    (within : ¬ Duration.millisecond ∣ origin.instant) :
    policy.TimesOut test origin (Clock.roundUp origin.instant + policy.budget) (pauses + 1) := by
  obtain ⟨start, starts⟩ := fails.exists_starts (Clock.wake · policy.period) pauses origin
  have inMillisecond := fails.roundUp_instant wholePeriod starts
  have wakes : Clock.wake start.instant policy.period =
      Clock.roundUp origin.instant + policy.budget := by
    rw [Clock.wake_eq_roundUp _ wholePeriod, inMillisecond, budgeted, Nat.succ_mul, Nat.add_assoc]
  have late : origin.instant + policy.budget < Clock.wake start.instant policy.period := by
    rw [wakes]
    exact Nat.add_lt_add_right (Clock.lt_roundUp within) _
  have early : start.instant < origin.instant + policy.budget := by
    have upTo := Clock.le_roundUp start.instant
    have soon := Clock.roundUp_lt origin.instant
    have pause : Duration.millisecond ≤ Clock.slept policy.period :=
      Nat.le_of_dvd (Clock.slept_pos positive) (Clock.dvd_slept wholePeriod)
    rw [budgeted, Nat.succ_mul]
    omega
  obtain ⟨answer, reached, ran, counting, stops⟩ := starts.run_follow positive represented
    (Nat.le_of_lt early) fun other failed =>
      Or.inr (by rw [fails.instant_eq failed]; exact late)
  obtain ⟨ended, failed, same⟩ := fails start
  obtain ⟨rfl, rfl⟩ := stops.of_failed_early failed (same ▸ early)
  rw [← wakes, ← same]
  exact ⟨ended.memory, ended.state, ran, counting⟩

/-- A wait in vain never ends when its budget has no end. -/
theorem run_follow_endless
    {policy : PollPolicy}
    (endless : Clock.later origin.instant policy.budget = none) :
    (policy.follow test origin.memory).run origin.instant origin.state = none := by
  obtain ⟨_, starts⟩ :=
    fails.exists_starts (Clock.wake · policy.period) unboundedEvaluations origin
  exact run_follow_endless_eq_none policy starts endless rfl

end FailsAtOnce

end Fleet.PollPolicy
