import Fleet.Proofs.Retry.Rounds

/-!
# The schedule of a wait

Nothing but its own evaluations decides how a wait goes on: each starts where the pause after the
one before ends. `Starts` is this schedule, as it would be without a budget. The wait follows it to
the first evaluation that ends it, in one of four ways: the test holds, it fails when the budget is
used up, the pause after it outlasts the budget, or the evaluation itself does.

The deadline of an evaluation is a timer, so an answer counts up to the end of the millisecond in
which the budget ends.
-/

namespace Fleet.PollPolicy

/-- An instant, with the state of the world and what is remembered then. -/
structure Stand (σ μ : Type) where
  instant : Nat
  state : σ
  memory : μ

variable {σ μ : Type}

/-- An evaluation that is left to itself finishes with an answer. -/
def Finishes
    (test : μ → Activity σ (Bool × μ))
    (start : Stand σ μ)
    (answer : Bool)
    (ended : Stand σ μ) :
    Prop :=
  (test start.memory).run start.instant start.state =
    some ((answer, ended.memory), ended.instant, ended.state)

/-- The evaluation with a number, counted from zero, starts somewhere. All evaluations before it
have finished with false, and the wait was resumed some time after each of them. -/
inductive Starts (test : μ → Activity σ (Bool × μ)) (resume : Nat → Nat)
    (origin : Stand σ μ) :
    Nat → Stand σ μ → Prop where
  | first : Starts test resume origin 0 origin
  | next {number : Nat} {start ended : Stand σ μ}
      (starts : Starts test resume origin number start)
      (failed : Finishes test start false ended) :
    Starts test resume origin (number + 1) { ended with instant := resume ended.instant }

variable {test : μ → Activity σ (Bool × μ)} {resume : Nat → Nat}
  {origin start ended : Stand σ μ}
  {number : Nat} {answer : Bool}

namespace Finishes

theorem unique
    {other : Bool}
    {reached : Stand σ μ}
    (first : Finishes test start answer ended)
    (second : Finishes test start other reached) :
    answer = other ∧ ended = reached := by
  rw [Finishes, first] at second
  cases ended
  cases reached
  cases second
  exact ⟨rfl, rfl⟩

theorem le (finishes : Finishes test start answer ended) : start.instant ≤ ended.instant :=
  Activity.le_of_run finishes

end Finishes

namespace Starts

/-- An evaluation with a number starts from one place at most. -/
theorem unique
    {other : Stand σ μ}
    (starts : Starts test resume origin number start)
    (again : Starts test resume origin number other) :
    start = other := by
  induction starts generalizing other with
  | first =>
    cases again
    rfl
  | next starts failed inductionHypothesis =>
    cases again with
    | next again failedAgain =>
      obtain rfl := inductionHypothesis again
      rw [(failed.unique failedAgain).2]

section Later

variable (later : ∀ instant, instant ≤ resume instant)

include later

/-- An evaluation that comes before another one has finished with false, and the other one starts
after the pause. -/
theorem exists_failed
    {earlier : Nat}
    (starts : Starts test resume origin number start)
    (before : earlier < number) :
    ∃ other ended, Starts test resume origin earlier other ∧ Finishes test other false ended ∧
      resume ended.instant ≤ start.instant := by
  induction starts with
  | first => cases before
  | @next last _ ended starts failed inductionHypothesis =>
    rcases Nat.lt_succ_iff_lt_or_eq.1 before with further | rfl
    · obtain ⟨other, finish, startsOther, failedOther, paused⟩ := inductionHypothesis further
      refine ⟨other, finish, startsOther, failedOther, ?_⟩
      exact Nat.le_trans paused (Nat.le_trans failed.le (later ended.instant))
    · exact ⟨_, ended, starts, failed, Nat.le_refl _⟩

end Later

/-- Evaluations keep the distance of a pause. -/
theorem spaced
    {pause : Nat}
    (paused : ∀ instant, instant + pause ≤ resume instant)
    (starts : Starts test resume origin number start) :
    origin.instant + number * pause ≤ start.instant := by
  induction starts with
  | first => simp
  | @next last _ ended _ failed inductionHypothesis =>
    have went := failed.le
    have rested := paused ended.instant
    rw [Nat.succ_mul]
    show _ ≤ resume ended.instant
    omega

end Starts

/-! ## The evaluation that ends a wait -/

/-- A wait whose budget ends at an instant stops with an evaluation that starts somewhere: how it
does, with which answer, and where. -/
inductive Stops (test : μ → Activity σ (Bool × μ)) (period final : Nat)
    (start : Stand σ μ) :
    Bool → Stand σ μ → Prop where
  | held {ended : Stand σ μ} (holds : Finishes test start true ended)
      (counts : ended.instant ≤ Clock.roundUp final) :
    Stops test period final start true ended
  | exhausted {ended : Stand σ μ} (failed : Finishes test start false ended)
      (spent : final ≤ ended.instant) (counts : ended.instant ≤ Clock.roundUp final) :
    Stops test period final start false ended
  | overslept {ended : Stand σ μ} (failed : Finishes test start false ended)
      (early : ended.instant < final) (late : final < Clock.wake ended.instant period) :
    Stops test period final start false { ended with instant := Clock.wake ended.instant period }
  | abandoned {left : σ}
      (cut : ((test start.memory).before (Clock.roundUp final)).run start.instant start.state =
        some (none, Clock.roundUp final, left)) :
    Stops test period final start false ⟨Clock.roundUp final, left, start.memory⟩

/-- A wait ends with the evaluation of a number, which starts within the budget. -/
def EndsWith
    (test : μ → Activity σ (Bool × μ))
    (period final : Nat)
    (origin : Stand σ μ)
    (number : Nat)
    (answer : Bool)
    (reached : Stand σ μ) :
    Prop :=
  ∃ start, Starts test (Clock.wake · period) origin number start ∧ start.instant ≤ final ∧
    Stops test period final start answer reached

variable {period final : Nat} {reached : Stand σ μ}

theorem not_finishes_of_cut
    {left : σ}
    (cut : ((test start.memory).before (Clock.roundUp final)).run start.instant start.state =
      some (none, Clock.roundUp final, left))
    (finishes : Finishes test start answer ended) :
    Clock.roundUp final < ended.instant := by
  rcases Nat.lt_or_ge (Clock.roundUp final) ended.instant with late | early
  · exact late
  · rw [Activity.run_before_of_run finishes early] at cut
    cases cut

/-- The evaluation with which a wait stops is the last one: when it fails, no time is left. -/
theorem Stops.no_time_left
    (stops : Stops test period final start answer reached)
    (failed : Finishes test start false ended) :
    final ≤ ended.instant ∨ final < Clock.wake ended.instant period := by
  cases stops with
  | held holds _ => cases (holds.unique failed).1
  | exhausted again spent _ =>
    rw [(again.unique failed).2] at spent
    exact Or.inl spent
  | overslept again _ late =>
    rw [(again.unique failed).2] at late
    exact Or.inr late
  | abandoned cut =>
    exact Or.inl (Nat.le_trans (Clock.le_roundUp final)
      (Nat.le_of_lt (not_finishes_of_cut cut failed)))

namespace Stops

variable (stops : Stops test period final start answer reached)

include stops

/-- A wait stops with an evaluation that holds in time. -/
theorem of_holds
    (holds : Finishes test start true ended)
    (counts : ended.instant ≤ Clock.roundUp final) :
    answer = true ∧ reached = ended := by
  cases stops with
  | held again _ => exact ⟨rfl, (again.unique holds).2⟩
  | exhausted failed _ _ => cases (failed.unique holds).1
  | overslept failed _ _ => cases (failed.unique holds).1
  | abandoned cut => exact absurd (not_finishes_of_cut cut holds) (Nat.not_lt_of_le counts)

/-- An evaluation that fails at the end of the budget ends the wait. -/
theorem of_failed_at_end
    (failed : Finishes test start false ended)
    (spent : final ≤ ended.instant)
    (counts : ended.instant ≤ Clock.roundUp final) :
    answer = false ∧ reached = ended := by
  cases stops with
  | held holds _ => cases (holds.unique failed).1
  | exhausted again _ _ => exact ⟨rfl, (again.unique failed).2⟩
  | overslept again early _ =>
    rw [(again.unique failed).2] at early
    exact absurd early (Nat.not_lt_of_le spent)
  | abandoned cut => exact absurd (not_finishes_of_cut cut failed) (Nat.not_lt_of_le counts)

/-- After an evaluation that fails in time, a wait stops with the pause. -/
theorem of_failed_early
    (failed : Finishes test start false ended)
    (early : ended.instant < final) :
    answer = false ∧ reached = { ended with instant := Clock.wake ended.instant period } := by
  cases stops with
  | held holds _ => cases (holds.unique failed).1
  | exhausted again spent _ =>
    rw [(again.unique failed).2] at spent
    exact absurd early (Nat.not_lt_of_le spent)
  | overslept again _ _ =>
    rw [(again.unique failed).2]
    exact ⟨rfl, rfl⟩
  | abandoned cut =>
    have late := not_finishes_of_cut cut failed
    have upTo := Clock.le_roundUp final
    omega

/-- A wait stops with an evaluation that fails in time, and with what it leaves. -/
theorem of_failed
    (failed : Finishes test start false ended)
    (counts : ended.instant ≤ Clock.roundUp final) :
    answer = false ∧ reached.state = ended.state ∧ reached.memory = ended.memory := by
  rcases Nat.lt_or_ge ended.instant final with early | spent
  · rcases stops.of_failed_early failed early with ⟨same, rfl⟩
    exact ⟨same, rfl, rfl⟩
  · rcases stops.of_failed_at_end failed spent counts with ⟨same, rfl⟩
    exact ⟨same, rfl, rfl⟩

/-- An evaluation that is cut off leaves what is remembered as it was. -/
theorem of_cut
    {left : σ}
    (cut : ((test start.memory).before (Clock.roundUp final)).run start.instant start.state =
      some (none, Clock.roundUp final, left)) :
    answer = false ∧ reached = ⟨Clock.roundUp final, left, start.memory⟩ := by
  cases stops with
  | held holds counts => exact absurd (not_finishes_of_cut cut holds) (Nat.not_lt_of_le counts)
  | exhausted failed _ counts =>
    exact absurd (not_finishes_of_cut cut failed) (Nat.not_lt_of_le counts)
  | overslept failed early _ =>
    have late := not_finishes_of_cut cut failed
    have upTo := Clock.le_roundUp final
    omega
  | abandoned again =>
    rw [cut] at again
    cases again
    exact ⟨rfl, rfl⟩

/-- A wait gives up an evaluation that does not finish by its deadline. -/
theorem of_unfinished
    (unfinished : ∀ other ended, Finishes test start other ended →
      Clock.roundUp final < ended.instant) :
    answer = false ∧ reached.instant = Clock.roundUp final := by
  cases stops with
  | held holds counts => exact absurd (unfinished _ _ holds) (Nat.not_lt_of_le counts)
  | exhausted failed _ counts => exact absurd (unfinished _ _ failed) (Nat.not_lt_of_le counts)
  | overslept failed early _ =>
    have beyond := unfinished _ _ failed
    have upTo := Clock.le_roundUp final
    omega
  | abandoned _ => exact ⟨rfl, rfl⟩

/-- How a wait stops is settled by its last evaluation. -/
theorem unique
    {other : Bool}
    {left : Stand σ μ}
    (again : Stops test period final start other left) :
    answer = other ∧ reached = left := by
  cases again with
  | held holds counts => exact stops.of_holds holds counts
  | exhausted failed spent counts => exact stops.of_failed_at_end failed spent counts
  | overslept failed early _ => exact stops.of_failed_early failed early
  | abandoned cut => exact stops.of_cut cut

end Stops

/-- An evaluation that starts within the budget, and leaves no time when it fails, is the one with
which the wait ends. -/
theorem EndsWith.stops
    (ends : EndsWith test period final origin number answer reached)
    {other : Nat}
    (starts : Starts test (Clock.wake · period) origin other start)
    (inTime : start.instant ≤ final)
    (positive : 0 < period)
    (last : ∀ ended, Finishes test start false ended →
      final ≤ ended.instant ∨ final < Clock.wake ended.instant period) :
    number = other ∧ Stops test period final start answer reached := by
  have later : ∀ instant, instant < Clock.wake instant period := fun instant =>
    Clock.lt_wake instant positive
  have paused : ∀ instant, instant ≤ Clock.wake instant period := fun instant =>
    Clock.le_wake instant period
  obtain ⟨ending, startsEnding, endingInTime, stops⟩ := ends
  have notBefore : ¬ number < other := by
    intro before
    obtain ⟨same, ended, startsSame, failed, resumed⟩ := starts.exists_failed paused before
    obtain rfl := startsSame.unique startsEnding
    have further := later ended.instant
    have left := stops.no_time_left failed
    omega
  have notAfter : ¬ other < number := by
    intro after
    obtain ⟨same, ended, startsSame, failed, resumed⟩ := startsEnding.exists_failed paused after
    obtain rfl := startsSame.unique starts
    have further := later ended.instant
    have left := last ended failed
    omega
  obtain rfl : number = other := by omega
  obtain rfl := startsEnding.unique starts
  exact ⟨rfl, stops⟩

/-- A wait ends in one way only. -/
theorem EndsWith.unique
    {other : Nat}
    {otherAnswer : Bool}
    {left : Stand σ μ}
    (ends : EndsWith test period final origin number answer reached)
    (again : EndsWith test period final origin other otherAnswer left)
    (positive : 0 < period) :
    number = other ∧ answer = otherAnswer ∧ reached = left := by
  obtain ⟨start, starts, inTime, stops⟩ := again
  obtain ⟨rfl, stopsFirst⟩ := ends.stops starts inTime positive fun _ => stops.no_time_left
  exact ⟨rfl, stopsFirst.unique stops⟩

/-! ## Following the schedule -/

section Poll

variable {memory after : μ} {now later woken : Nat} {state met : σ} (remaining : Nat)

theorem run_poll_held
    (evaluated : (evaluate (some final) test memory).run now state =
      some ((true, after), later, met)) :
    (poll period (some final) test (remaining + 1) memory).run now state =
      some ((true, after), later, met) := by
  rw [poll, Activity.bind_eq_bind, Activity.run_bind, evaluated]
  rfl

section Failed

variable
  (evaluated : (evaluate (some final) test memory).run now state =
    some ((false, after), later, met))

include evaluated

theorem run_poll_exhausted (spent : final ≤ later) :
    (poll period (some final) test (remaining + 1) memory).run now state =
      some ((false, after), later, met) := by
  rw [poll, Activity.bind_eq_bind, Activity.run_bind, evaluated]
  simp [Activity.currentInstant, Activity.run_bind, isReached, spent]

variable (slept : (Activity.sleep period).run later met = some ((), woken, met))
  (early : later < final)

include slept early

theorem run_poll_overslept (late : final < woken) :
    (poll period (some final) test (remaining + 1) memory).run now state =
      some ((false, after), woken, met) := by
  rw [poll, Activity.bind_eq_bind, Activity.run_bind, evaluated]
  simp [Activity.currentInstant, Activity.run_bind, isReached, isPassed, Nat.not_le_of_lt early,
    slept, late]

/-- After a pause within the budget the wait goes on. -/
theorem run_poll_resumed (stillTime : woken ≤ final) :
    (poll period (some final) test (remaining + 1) memory).run now state =
      (poll period (some final) test remaining after).run woken met := by
  rw [poll, Activity.bind_eq_bind, Activity.run_bind, evaluated]
  simp [Activity.currentInstant, Activity.run_bind, isReached, isPassed, Nat.not_le_of_lt early,
    slept, Nat.not_lt_of_le stillTime]

end Failed

/-- Without a deadline nothing but a true answer ends a wait. -/
theorem poll_unlimited
    (period : Nat)
    (test : μ → Activity σ (Bool × μ))
    (memory : μ) :
    poll period none test (remaining + 1) memory =
      (test memory).bind fun answer =>
        if answer.1 then .done (true, answer.2)
        else Activity.currentInstant.bind fun _ => (Activity.sleep period).bind fun _ =>
          Activity.currentInstant.bind fun _ => poll period none test remaining answer.2 := by
  simp [poll, isReached, isPassed, evaluate]

theorem run_poll_unlimited
    (failed : (test memory).run now state = some ((false, after), later, met))
    (slept : (Activity.sleep period).run later met = some ((), woken, met)) :
    (poll period none test (remaining + 1) memory).run now state =
      (poll period none test remaining after).run woken met := by
  have looks : ∀ now (state : σ),
    Activity.currentInstant.run now state = some (now, now, state) :=
    fun _ _ => rfl
  rw [poll_unlimited, Activity.run_bind_of_run failed, if_neg Bool.false_ne_true,
    Activity.run_bind_of_run (looks later met), Activity.run_bind_of_run slept,
    Activity.run_bind_of_run (looks woken met)]

end Poll

section Run

variable (represented : final / Duration.second ≤ Clock.lastSecond)

include represented

/-- An evaluation within the budget does what its test does, and is false with the memory as it was
when it is cut off. -/
theorem run_evaluate
    (test : μ → Activity σ (Bool × μ))
    {now : Nat}
    (inTime : now ≤ final)
    (memory : μ)
    (state : σ) :
    (evaluate (some final) test memory).run now state =
      (((test memory).before (Clock.roundUp final)).run now state).map fun ending =>
        (ending.1.getD (false, memory), ending.2) := by
  have ends : Clock.later now (final - now) = some final := by
    rw [Clock.later, Nat.add_sub_cancel' inTime, if_pos represented]
  have rings := Clock.ring_of_later ends
  simp only [evaluate, Activity.limited, Activity.bind_eq_bind, Activity.run_bind,
    Activity.currentInstant, Activity.run_observe, Option.bind_some, Activity.run, rings]
  cases ((test memory).before (Clock.roundUp final)).run now state <;> rfl

/-- A wait goes on along its schedule to the evaluation that ends it. Each pause uses up one of the
evaluations for which the budget has room. -/
theorem run_poll
    (positive : 0 < period)
    {remaining : Nat}
    (starts : Starts test (Clock.wake · period) origin number start)
    (inTime : start.instant ≤ final)
    (allowed : (final - start.instant) / Clock.slept period < remaining) :
    ∃ number answer reached,
      (poll period (some final) test remaining start.memory).run start.instant start.state =
        some ((answer, reached.memory), reached.instant, reached.state) ∧
      EndsWith test period final origin number answer reached := by
  induction remaining generalizing number start with
  | zero => exact absurd allowed (Nat.not_lt_zero _)
  | succ remaining inductionHypothesis =>
    have ahead := Nat.le_trans inTime (Clock.le_roundUp final)
    obtain ⟨given, later, met, limited, counts⟩ := Activity.run_before (test start.memory)
      (Clock.roundUp final) start.instant start.state
    rw [Nat.max_eq_right ahead] at counts
    have evaluated := run_evaluate represented test inTime start.memory start.state
    rw [limited] at evaluated
    cases given with
    | none =>
      obtain rfl : later = Clock.roundUp final := by
        rw [Activity.instant_of_run_before limited, Nat.max_eq_right ahead]
      exact ⟨number, false, ⟨_, met, start.memory⟩,
        run_poll_exhausted remaining evaluated (Clock.le_roundUp final), start, starts, inTime,
        .abandoned limited⟩
    | some result =>
      obtain ⟨holds, after⟩ := result
      have finishes : Finishes test start holds ⟨later, met, after⟩ :=
        Activity.run_of_run_before limited
      cases holds with
      | true =>
        exact ⟨number, true, ⟨later, met, after⟩,
          run_poll_held remaining evaluated, start, starts,
          inTime, .held finishes counts⟩
      | false =>
        rcases Nat.lt_or_ge later final with early | spent
        · have rested : later + Clock.slept period ≤ Clock.wake later period :=
            Clock.le_roundUp _
          have slept := Activity.run_sleep_eq_wake period later met
          rcases Nat.lt_or_ge final (Clock.wake later period) with late | stillTime
          · have stops := Stops.overslept finishes early late
            exact ⟨number, false, ⟨Clock.wake later period, met, after⟩,
              run_poll_overslept remaining evaluated slept early late, start, starts, inTime,
              stops⟩
          · rw [run_poll_resumed remaining evaluated slept early stillTime]
            have pause := Clock.slept_pos positive
            have went : start.instant ≤ later := finishes.le
            have fewer : (final - Clock.wake later period) / Clock.slept period < remaining := by
              have shorter : final - Clock.wake later period + Clock.slept period ≤
                  final - start.instant := by omega
              have divided := Nat.div_le_div_right (c := Clock.slept period) shorter
              rw [Nat.add_div_right _ pause] at divided
              omega
            exact inductionHypothesis (.next starts finishes) stillTime fewer
        · exact ⟨number, false, ⟨later, met, after⟩,
            run_poll_exhausted remaining evaluated spent,
            start, starts, inTime, .exhausted finishes spent counts⟩

end Run

/-- A wait polls up to the end of its budget. -/
theorem run_follow_eq
    (policy : PollPolicy)
    (test : μ → Activity σ (Bool × μ))
    (memory : μ)
    (now : Nat)
    (state : σ) :
    (policy.follow test memory).run now state =
      (poll policy.period (Clock.later now policy.budget) test
        (policy.evaluations (Clock.later now policy.budget)) memory).run now state := by
  rw [follow, Activity.bind_eq_bind, Activity.run_bind]
  rfl

/-- A wait whose budget ends within the clock ends, as its schedule says. -/
theorem run_follow
    {policy : PollPolicy}
    (test : μ → Activity σ (Bool × μ))
    (origin : Stand σ μ)
    (positive : 0 < policy.period)
    (represented : (Clock.later origin.instant policy.budget).isSome = true) :
    ∃ number answer reached,
      (policy.follow test origin.memory).run origin.instant origin.state =
        some ((answer, reached.memory), reached.instant, reached.state) ∧
      EndsWith test policy.period (origin.instant + policy.budget) origin number answer
        reached := by
  obtain ⟨final, ends⟩ := Option.isSome_iff_exists.1 represented
  obtain rfl := Clock.eq_of_later ends
  have within : (origin.instant + policy.budget) / Duration.second ≤ Clock.lastSecond := by
    rw [Clock.later] at ends
    split at ends
    · assumption
    · cases ends
  have allowed : (origin.instant + policy.budget - origin.instant) / Clock.slept policy.period <
      policy.evaluations (some (origin.instant + policy.budget)) := by
    simp [evaluations, positive]
  rw [run_follow_eq, ends]
  exact run_poll within positive .first (Nat.le_add_right _ _) allowed

/-- Without a deadline a wait goes on along its schedule. -/
theorem run_poll_endless
    (sleeps : ∀ now (state : σ),
      (Activity.sleep period).run now state = some ((), resume now, state))
    (starts : Starts test resume origin number start)
    (remaining : Nat) :
    (poll period none test (number + remaining) origin.memory).run origin.instant origin.state =
      (poll period none test remaining start.memory).run start.instant start.state := by
  induction starts generalizing remaining with
  | first => rw [Nat.zero_add]
  | @next number start ended starts failed inductionHypothesis =>
    rw [Nat.add_assoc, Nat.add_comm 1, inductionHypothesis]
    exact run_poll_unlimited remaining failed (sleeps ended.instant ended.state)

/-- A wait whose budget has no end finishes with the first evaluation that holds. -/
theorem run_follow_endless
    (policy : PollPolicy)
    (starts : Starts test (Clock.wake · policy.period) origin number start)
    (holds : Finishes test start true ended)
    (endless : Clock.later origin.instant policy.budget = none)
    (allowed : number < unboundedEvaluations) :
    (policy.follow test origin.memory).run origin.instant origin.state =
      some ((true, ended.memory), ended.instant, ended.state) := by
  obtain ⟨spare, enough⟩ := Nat.exists_eq_add_of_lt allowed
  have evaluations : policy.evaluations none = number + (spare + 1) := by
    rw [← Nat.add_assoc, ← enough]
    simp [evaluations]
  rw [run_follow_eq, endless, evaluations,
    run_poll_endless (Activity.run_sleep_eq_wake policy.period) starts, poll_unlimited,
    Activity.run_bind_of_run holds]
  rfl

/-- A wait whose budget has no end does not return when all its evaluations fail. -/
theorem run_follow_endless_eq_none
    (policy : PollPolicy)
    (starts : Starts test (Clock.wake · policy.period) origin number start)
    (endless : Clock.later origin.instant policy.budget = none)
    (all : number = unboundedEvaluations) :
    (policy.follow test origin.memory).run origin.instant origin.state = none := by
  have evaluations : policy.evaluations none = number + 0 := by
    rw [Nat.add_zero, all]
    simp [evaluations]
  rw [run_follow_eq, endless, evaluations,
    run_poll_endless (Activity.run_sleep_eq_wake policy.period) starts]
  rfl

/-- A wait whose budget ends within the clock returns, whatever the test does. -/
theorem run_waitUntil_ne_none
    {policy : PollPolicy}
    (test : Activity σ Bool)
    {now : Nat}
    (state : σ)
    (positive : 0 < policy.period)
    (represented : (Clock.later now policy.budget).isSome = true) :
    (policy.waitUntil test).run now state ≠ none := by
  obtain ⟨_, answer, reached, ran, -⟩ := run_follow
    (fun _ : Unit => test.bind fun holds => .done (holds, ())) ⟨now, state, ()⟩
      positive represented
  rw [waitUntil, Activity.bind_eq_bind, Activity.run_bind]
  simp only [Activity.bind_eq_bind, Activity.pure_eq_done, ran]
  exact Option.some_ne_none _

end Fleet.PollPolicy
