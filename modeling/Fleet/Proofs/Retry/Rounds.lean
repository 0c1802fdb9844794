import Fleet.Proofs.Activity.Interference
import Fleet.Retry.Poll

/-!
# Waits round by round

A wait whose test takes no time looks at fixed instants, one period apart. When the test holds in a
certain round and that round falls within the budget, a round at the very end of the budget
included, the wait ends there; otherwise it ends without an answer after one of the rounds before.
Others may act at the same time, as long as they leave alone what the test looks at.
-/

namespace Fleet

namespace PollPolicy

variable {σ μ : Type}

theorem isReached_iff
    (deadline : Option Nat)
    (now : Nat) :
    isReached deadline now = true ↔ ∃ final, deadline = some final ∧ final ≤ now := by
  simp only [isReached, Option.any_eq_true, decide_eq_true_eq]

theorem isPassed_iff
    (deadline : Option Nat)
    (now : Nat) :
    isPassed deadline now = true ↔ ∃ final, deadline = some final ∧ final < now := by
  simp only [isPassed, Option.any_eq_true, decide_eq_true_eq]

/-- A length of time from some instant on ends within the budget. A budget past the end of the clock
has no end. -/
def Covers (policy : PollPolicy) (now length : Nat) : Prop :=
  ∀ final, Clock.later now policy.budget = some final → now + length ≤ final

theorem covers_of_le
    {policy : PollPolicy}
    {length : Nat}
    (short : length ≤ policy.budget)
    (now : Nat) :
    policy.Covers now length := by
  intro final ends
  rw [Clock.eq_of_later ends]
  exact Nat.add_le_add_left short now

theorem covers_of_later_eq_none
    {policy : PollPolicy}
    {now : Nat}
    (endless : Clock.later now policy.budget = none)
    (length : Nat) :
    policy.Covers now length := by
  intro final ends
  rw [endless] at ends
  cases ends

theorem not_covers_of_lt
    {policy : PollPolicy}
    {now length : Nat}
    (long : policy.budget < length)
    (represented : (Clock.later now policy.budget).isSome = true) :
    ¬ policy.Covers now length := by
  intro covers
  obtain ⟨final, ends⟩ := Option.isSome_iff_exists.1 represented
  have upTo := covers final ends
  rw [Clock.eq_of_later ends] at upTo
  omega

/-- A test that takes no time. In each round up to a last one it finds the state as it should be,
and leaves it ready for the next round, whatever others have done; it holds in the last round. -/
structure Rounds (contract : Contract σ) (test : μ → Activity σ (Bool × μ)) (last : Nat)
    (memories : Nat → μ) (ready : Nat → σ → Prop) : Prop where
  stable : ∀ round before after, contract.rely before after → ready round before →
    ready round after
  looks : ∀ round now state, round ≤ last → ready round state →
    (test (memories round)).Attains contract
      (fun answer later reached => later = now ∧
        answer = (decide (round = last), memories (round + 1)) ∧ ready (round + 1) reached)
      now state

namespace Rounds

variable {contract : Contract σ} {test : μ → Activity σ (Bool × μ)} {last : Nat}
  {memories : Nat → μ} {ready : Nat → σ → Prop}
  (rounds : Rounds contract test last memories ready)

include rounds

/-- No deadline keeps a round from its answer. -/
theorem attains_evaluate
    (deadline : Option Nat)
    {round now : Nat}
    {state : σ}
    (upTo : round ≤ last)
    (isReady : ready round state) :
    (evaluate deadline test (memories round)).Attains contract
      (fun answer later reached => later = now ∧
        answer = (decide (round = last), memories (round + 1)) ∧ ready (round + 1) reached)
      now state := by
  cases deadline with
  | none => exact rounds.looks round now state upTo isReady
  | some final =>
    refine Activity.Attains.bind (Activity.attains_observe fun met relied later further => ?_)
    have stillReady := rounds.stable round _ _ (contract.rely_trans _ _ _ relied further) isReady
    refine Activity.Attains.map ?_
    refine ((rounds.looks round now later upTo stillReady).limited (final - now)).mono ?_
    rintro answer later reached ⟨result, rfl, goal⟩
    exact goal

/-- The wait ends with the last round. -/
theorem attains_last
    {period : Nat}
    {deadline : Option Nat}
    {remaining now : Nat}
    {state : σ}
    (isReady : ready last state) :
    (poll period deadline test (remaining + 1) (memories last)).Attains contract
      (fun answer later reached => later = now ∧ answer = (true, memories (last + 1)) ∧
        ready (last + 1) reached) now state := by
  refine Activity.Attains.bind ((rounds.attains_evaluate deadline (Nat.le_refl last)
    isReady).mono ?_)
  rintro answer later reached ⟨rfl, rfl, isReady⟩
  simp only [decide_true, if_true]
  exact fun final relied => ⟨rfl, rfl, rounds.stable _ _ _ relied isReady⟩

/-- After a round that is not the last one, the wait ends at once or after a pause, or it goes
on. -/
theorem attains_before_last
    {period : Nat}
    {deadline : Option Nat}
    {remaining round now : Nat}
    {state : σ}
    {goal : Bool × μ → Nat → σ → Prop}
    (wholeNow : Duration.millisecond ∣ now)
    (whole : Duration.millisecond ∣ period)
    (notLast : round < last)
    (isReady : ready round state)
    (ends : isReached deadline now = true ∨
      isPassed deadline (now + Clock.slept period) = true →
      ∀ later reached, ready (round + 1) reached →
        goal (false, memories (round + 1)) later reached)
    (continues : isReached deadline now = false →
      isPassed deadline (now + Clock.slept period) = false → ∀ reached,
        ready (round + 1) reached →
      (poll period deadline test remaining (memories (round + 1))).Attains contract goal
        (now + Clock.slept period) reached) :
    (poll period deadline test (remaining + 1) (memories round)).Attains contract goal now
      state := by
  refine Activity.Attains.bind ((rounds.attains_evaluate deadline (Nat.le_of_lt notLast)
    isReady).mono ?_)
  rintro answer later reached ⟨rfl, rfl, isReady⟩
  have still : ∀ other, contract.rely reached other → ready (round + 1) other :=
    fun other relied => rounds.stable _ _ _ relied isReady
  simp only [decide_eq_false (Nat.ne_of_lt notLast), Bool.false_eq_true, if_false]
  refine Activity.Attains.bind (Activity.attains_observe fun met relied after further => ?_)
  have readyAfter := still after (contract.rely_trans _ _ _ relied further)
  split
  · rename_i isAtEnd
    exact fun final relied => ends (Or.inl isAtEnd) _ _ (rounds.stable _ _ _ relied readyAfter)
  · rename_i notAtEnd
    refine Activity.Attains.bind (Activity.attains_sleep fun woken relied => ?_)
    refine Activity.Attains.bind (Activity.attains_observe fun met relied' looking further => ?_)
    have readyLooking := rounds.stable _ _ _ (contract.rely_trans _ _ _ relied
      (contract.rely_trans _ _ _ relied' further)) readyAfter
    have awake : max later (Clock.wake later period) = later + Clock.slept period := by
      rw [Clock.wake_eq wholeNow whole]
      exact Nat.max_eq_right (Nat.le_add_right _ _)
    rw [awake]
    split
    · rename_i isPast
      exact fun final relied => ends (Or.inr isPast) _ _ (rounds.stable _ _ _ relied readyLooking)
    · rename_i notPast
      exact continues (Bool.eq_false_iff.2 notAtEnd) (Bool.eq_false_iff.2 notPast) looking
        readyLooking

/-- When the last round falls within the budget, the wait ends with it. -/
theorem attains_poll_in_time
    {period : Nat}
    (positive : 0 < period)
    (whole : Duration.millisecond ∣ period)
    {deadline : Option Nat}
    {pauses round : Nat}
    (toGo : round + pauses = last)
    {remaining now : Nat}
    (allowed : pauses < remaining)
    (wholeNow : Duration.millisecond ∣ now)
    {state : σ}
    (isReady : ready round state)
    (inTime : ∀ final, deadline = some final → now + pauses * Clock.slept period ≤ final) :
    (poll period deadline test remaining (memories round)).Attains contract
      (fun answer later reached => later = now + pauses * Clock.slept period ∧
        answer = (true, memories (last + 1)) ∧ ready (last + 1) reached) now state := by
  induction pauses generalizing round remaining now state with
  | zero =>
    obtain ⟨remaining, rfl⟩ := Nat.exists_eq_succ_of_ne_zero (Nat.ne_of_gt allowed)
    obtain rfl : round = last := toGo
    rw [Nat.zero_mul, Nat.add_zero]
    exact rounds.attains_last isReady
  | succ pauses inductionHypothesis =>
    obtain ⟨remaining, rfl⟩ := Nat.exists_eq_succ_of_ne_zero (Nat.ne_zero_of_lt allowed)
    have pause := Clock.slept_pos positive
    have later : now + Clock.slept period + pauses * Clock.slept period =
        now + (pauses + 1) * Clock.slept period := by
      rw [Nat.succ_mul]
      omega
    refine rounds.attains_before_last wholeNow whole (by omega) isReady ?_ ?_
    · rw [isReached_iff, isPassed_iff]
      rintro (⟨final, ends, gone⟩ | ⟨final, ends, gone⟩)
      all_goals
        have ahead := inTime final ends
        omega
    · intro _ _ reached readyNext
      rw [← later]
      refine inductionHypothesis (by omega) (by omega)
        (Nat.dvd_add wholeNow (Clock.dvd_slept whole)) readyNext fun final ends => ?_
      rw [later]
      exact inTime final ends

/-- When the last round falls after the budget, the wait ends after an earlier one. Each pause uses
up one of the evaluations for which the budget has room. -/
theorem attains_poll_late
    {period : Nat}
    (positive : 0 < period)
    (whole : Duration.millisecond ∣ period)
    {final pauses round : Nat}
    (toGo : round + pauses = last)
    {remaining now : Nat}
    (allowed : (final - now) / Clock.slept period < remaining)
    (wholeNow : Duration.millisecond ∣ now)
    (notOver : now ≤ final)
    (late : final < now + pauses * Clock.slept period)
    {state : σ}
    (isReady : ready round state) :
    (poll period (some final) test remaining (memories round)).Attains contract
      (fun answer _ reached => ∃ looked, round < looked ∧ looked ≤ last ∧
        answer = (false, memories looked) ∧ ready looked reached) now state := by
  induction pauses generalizing round remaining now state with
  | zero => omega
  | succ pauses inductionHypothesis =>
    obtain ⟨remaining, rfl⟩ := Nat.exists_eq_succ_of_ne_zero (Nat.ne_zero_of_lt allowed)
    have pause := Clock.slept_pos positive
    refine rounds.attains_before_last wholeNow whole (by omega) isReady ?_ ?_
    · intro _ later reached readyNext
      exact ⟨round + 1, by omega, by omega, rfl, readyNext⟩
    · intro _ notPassed reached readyNext
      have stillTime : now + Clock.slept period ≤ final := by
        simpa [isPassed] using notPassed
      have fewer : (final - (now + Clock.slept period)) / Clock.slept period < remaining := by
        rw [Nat.div_eq_sub_div pause (Nat.le_sub_of_add_le' stillTime), Nat.sub_sub] at allowed
        exact Nat.lt_of_succ_lt_succ allowed
      refine (inductionHypothesis (by omega) fewer
        (Nat.dvd_add wholeNow (Clock.dvd_slept whole)) stillTime ?_ readyNext).mono ?_
      · rw [Nat.succ_mul] at late
        omega
      · rintro answer later reached ⟨looked, above, upTo, result⟩
        exact ⟨looked, by omega, upTo, result⟩

variable (policy : PollPolicy) (positive : 0 < policy.period)
  (whole : Duration.millisecond ∣ policy.period) {now : Nat}
  (wholeNow : Duration.millisecond ∣ now)
  {state : σ} (isReady : ready 0 state)

include positive whole wholeNow isReady

/-- A wait whose last round falls within the budget ends with it, to the instant. -/
theorem attains_follow_in_time
    (few : last < unboundedEvaluations)
    (covered : policy.Covers now (last * Clock.slept policy.period)) :
    (policy.follow test (memories 0)).Attains contract
      (fun answer later reached => later = now + last * Clock.slept policy.period ∧
        answer = (true, memories (last + 1)) ∧ ready (last + 1) reached) now state := by
  refine Activity.Attains.bind (Activity.attains_observe fun met relied later further => ?_)
  have stillReady := rounds.stable 0 _ _ (contract.rely_trans _ _ _ relied further) isReady
  have pause := Clock.slept_pos positive
  refine rounds.attains_poll_in_time positive whole (Nat.zero_add last) ?_ wholeNow stillReady
    covered
  rw [evaluations]
  split
  · rename_i bounded
    obtain ⟨final, ends⟩ := Option.isSome_iff_exists.1 (Bool.and_eq_true_iff.1 bounded).1
    have upTo := covered final ends
    rw [Clock.eq_of_later ends] at upTo
    exact Nat.lt_succ_of_le ((Nat.le_div_iff_mul_le pause).2 (Nat.le_of_add_le_add_left upTo))
  · exact few

/-- A wait whose last round falls after the budget ends after an earlier one. -/
theorem attains_follow_late (late : ¬ policy.Covers now (last * Clock.slept policy.period)) :
    (policy.follow test (memories 0)).Attains contract
      (fun answer _ reached => ∃ looked, 0 < looked ∧ looked ≤ last ∧
        answer = (false, memories looked) ∧ ready looked reached) now state := by
  refine Activity.Attains.bind (Activity.attains_observe fun met relied later further => ?_)
  have stillReady := rounds.stable 0 _ _ (contract.rely_trans _ _ _ relied further) isReady
  obtain ⟨final, ends, tooLong⟩ : ∃ final, Clock.later now policy.budget = some final ∧
      final < now + last * Clock.slept policy.period := by
    simpa [Covers] using late
  obtain rfl := Clock.eq_of_later ends
  rw [ends]
  refine rounds.attains_poll_late positive whole (Nat.zero_add last) ?_ wholeNow
    (Nat.le_add_right _ _) tooLong stillReady
  simp only [evaluations, Option.isSome_some, Bool.true_and, decide_eq_true positive, if_true,
    Nat.add_sub_cancel_left]
  exact Nat.lt_succ_self _

end Rounds

end PollPolicy

end Fleet
