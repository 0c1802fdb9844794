import Fleet.Proofs.Retry.Series

/-!
# Counted attempts

The attempts of a run are counted from one without a gap, up to the first one that succeeds or to
the last one that may be made, whichever comes first. The run ends as that attempt does and when it
does. Between two attempts lies one sleep of the length of the pause.

The count fits the word in which the number of attempts was given: the number of an attempt is
compared with the last one before it is counted up, so it never goes beyond it.
-/

namespace Fleet.AttemptPolicy

variable {σ ε α : Type}

/-! ## The count in a word -/

/-- The next number after one that is below another has not wrapped around. -/
theorem toNat_next_of_lt
    {number last : UInt32}
    (below : number < last) :
    (number + 1).toNat = number.toNat + 1 := by
  have lastFits := last.toNat_lt
  have smaller : number.toNat < last.toNat := below
  rw [UInt32.toNat_add, UInt32.toNat_one]
  omega

/-- The attempts with their number in a word of 32 bits. After a failure the number is compared with
the last one, and counted up if it is smaller. -/
def countFrom
    (last : UInt32)
    (backoff : Nat)
    (operation : UInt32 → Activity σ (Except ε α))
    (number : UInt32) :
    Activity σ (Except ε α) := do
  match ← operation number with
  | .ok result => pure (.ok result)
  | .error failure =>
    if _ : number < last then
      Activity.sleep backoff
      countFrom last backoff operation (number + 1)
    else
      pure (.error failure)
termination_by last.toNat - number.toNat
decreasing_by
  rename_i below
  have smaller : number.toNat < last.toNat := below
  rw [toNat_next_of_lt below]
  omega

/-- The number of the last attempt: at least one is made. -/
def lastAttempt (attempts : UInt32) : UInt32 :=
  if attempts = 0 then 1 else attempts

theorem toNat_lastAttempt (attempts : UInt32) :
    (lastAttempt attempts).toNat = max 1 attempts.toNat := by
  rw [lastAttempt]
  split
  case isTrue none =>
    rw [none]
    rfl
  case isFalse some =>
    have positive : attempts.toNat ≠ 0 := fun zero => some (UInt32.toNat.inj zero)
    omega

section Counts

variable {number last : UInt32} (backoff : Nat)

/-- There is nothing after the last attempt. -/
theorem countFrom_of_last
    (operation : UInt32 → Activity σ (Except ε α))
    (reached : ¬ number < last) :
    countFrom last backoff operation number = operation number := by
  rw [countFrom, Activity.bind_eq_bind]
  conv_rhs => rw [← Activity.bind_done (operation number)]
  congr 1
  funext answer
  cases answer with
  | ok result => rfl
  | error failure => exact dif_neg reached

/-- A count that starts at or below the last attempt never leaves its word. -/
theorem countFrom_eq
    (operation : Nat → Activity σ (Except ε α))
    {more : Nat}
    (ahead : last.toNat = number.toNat + more) :
    countFrom last backoff (fun word => operation word.toNat) number =
      attemptFrom backoff operation number.toNat more := by
  induction more generalizing number with
  | zero =>
    have reached : ¬ number < last := fun below =>
      Nat.ne_of_lt (show number.toNat < last.toNat from below) ahead.symm
    rw [countFrom_of_last backoff _ reached, attemptFrom]
  | succ more inductionHypothesis =>
    have below : number < last := show number.toNat < last.toNat by omega
    have counted := toNat_next_of_lt below
    have onwards := @inductionHypothesis (number + 1) (by omega)
    rw [countFrom, attemptFrom, ← counted, ← onwards]
    congr 1
    funext answer
    cases answer with
    | ok result => rfl
    | error failure => exact dif_pos below

/-- The attempts of a policy can be counted in the word in which their number is given. -/
theorem countFrom_one
    (attempts : UInt32)
    (operation : Nat → Activity σ (Except ε α)) :
    countFrom (lastAttempt attempts) backoff (fun word => operation word.toNat) 1 =
      (ofAttempts attempts.toNat backoff).run operation := by
  have ahead : (lastAttempt attempts).toNat = (1 : UInt32).toNat + (attempts.toNat - 1) := by
    rw [toNat_lastAttempt, UInt32.toNat_one]
    omega
  exact countFrom_eq backoff operation ahead

end Counts

/-! ## The attempts that are made -/

section Attempts

variable {backoff : Nat} {operation : Nat → Activity σ (Except ε α)} {now : Nat} {state : σ}

/-- The attempt of a number, all before it having failed, ends with a result. -/
def AttemptEnds
    (backoff : Nat)
    (operation : Nat → Activity σ (Except ε α))
    (now : Nat)
    (state : σ)
    (number : Nat)
    (result : Except ε α)
    (later : Nat)
    (reached : σ) :
    Prop :=
  ∃ start begun, Begins backoff operation 1 now state number start begun ∧
    (operation number).run start begun = some (result, later, reached)

/-- The attempt of a number, all before it having failed, never ends. -/
def AttemptHangs
    (backoff : Nat)
    (operation : Nat → Activity σ (Except ε α))
    (now : Nat)
    (state : σ)
    (number : Nat) :
    Prop :=
  ∃ start begun, Begins backoff operation 1 now state number start begun ∧
    (operation number).run start begun = none

/-- All attempts before one that begins have failed. -/
theorem Begins.failed_before
    {number start earlier : Nat}
    {begun : σ}
    (begins : Begins backoff operation 1 now state number start begun)
    (counted : 1 ≤ earlier)
    (before : earlier < number) :
    ∃ failure ended after,
      AttemptEnds backoff operation now state earlier (.error failure) ended after := by
  induction begins with
  | first => omega
  | @again number _ _ _ _ _ begins failed inductionHypothesis =>
    rcases Nat.lt_succ_iff_lt_or_eq.1 before with sooner | rfl
    · exact inductionHypothesis sooner
    · exact ⟨_, _, _, _, _, begins, failed⟩

/-- An attempt that begins also begins when the calls are put on record. -/
theorem Begins.exists_logged
    {number start : Nat}
    {begun : σ}
    (begins : Begins backoff operation 1 now state number start begun) :
    ∃ calls, Begins backoff (logged operation) 1 now (state, []) number start (begun, calls) := by
  induction begins with
  | first => exact ⟨[], .first⟩
  | again _ failed inductionHypothesis =>
    obtain ⟨calls, begins⟩ := inductionHypothesis
    exact ⟨_, .again begins (by rw [run_logged, failed]; rfl)⟩

/-- A run of counted attempts ends as the attempt that concludes it, after one call for each number
up to its number. -/
theorem AttemptEnds.exists_calls
    {policy : AttemptPolicy}
    {number later : Nat}
    {result : Except ε α}
    {reached : σ}
    (ends : AttemptEnds policy.backoff operation now state number result later reached)
    (within : number ≤ policy.attempts)
    (settled : (∃ value, result = .ok value) ∨ number = policy.attempts) :
    ∃ calls, (policy.run (logged operation)).run now (state, []) =
        some (result, later, reached, calls) ∧
      calls.map Call.number = List.range' 1 number := by
  obtain ⟨start, begun, begins, ended⟩ := ends
  obtain ⟨calls, begins⟩ := begins.exists_logged
  have called : (logged operation number).run start (begun, calls) =
      some (result, later, reached, calls ++ [{ number, instant := start }]) := by
    rw [run_logged, ended]
    rfl
  have ran := run_eq_some_iff.2 ⟨number, start, (begun, calls), begins, within, called, settled⟩
  obtain ⟨_, numbered, _⟩ := begins.of_logged
  refine ⟨_, ran, ?_⟩
  rw [List.map_append, numbered]
  exact range'_concat_number begins.origin_le

/-- When some attempt succeeds, the attempts that are allowed end with a success or are used up
before it. -/
theorem AttemptEnds.within_or_exhausted
    {policy : AttemptPolicy}
    {number later : Nat}
    {value : α}
    {reached : σ}
    (succeeds : AttemptEnds policy.backoff operation now state number (.ok value) later reached) :
    ∃ result ended left,
      AttemptEnds policy.backoff operation now state (min number policy.attempts) result ended
        left ∧
      ((∃ value, result = .ok value) ∨ min number policy.attempts = policy.attempts) := by
  rcases Nat.lt_or_ge policy.attempts number with beyond | within
  · obtain ⟨start, begun, begins, _⟩ := succeeds
    obtain ⟨failure, ended, left, fails⟩ :=
      begins.failed_before (Nat.le_add_left 1 policy.pauses) beyond
    rw [Nat.min_eq_right (Nat.le_of_lt beyond)]
    exact ⟨_, ended, left, fails, Or.inr rfl⟩
  · rw [Nat.min_eq_left within]
    exact ⟨_, later, reached, succeeds, Or.inl ⟨value, rfl⟩⟩

/-- A run succeeds as its first successful attempt. -/
theorem run_eq_ok_iff
    {policy : AttemptPolicy}
    {value : α}
    {later : Nat}
    {reached : σ} :
    (policy.run operation).run now state = some (.ok value, later, reached) ↔
      ∃ number ≤ policy.attempts,
        AttemptEnds policy.backoff operation now state number (.ok value) later reached := by
  rw [run_eq_some_iff]
  constructor
  · rintro ⟨number, start, begun, begins, within, ended, _⟩
    exact ⟨number, within, start, begun, begins, ended⟩
  · rintro ⟨number, within, start, begun, begins, ended⟩
    exact ⟨number, start, begun, begins, within, ended, Or.inl ⟨value, rfl⟩⟩

/-- A run never ends when one of its attempts never does. -/
theorem run_eq_none_iff_hangs {policy : AttemptPolicy} :
    (policy.run operation).run now state = none ↔
      ∃ number ≤ policy.attempts, AttemptHangs policy.backoff operation now state number := by
  rw [run_eq_none_iff]
  constructor
  · rintro ⟨number, start, begun, begins, within, hangs⟩
    exact ⟨number, within, start, begun, begins, hangs⟩
  · rintro ⟨number, within, start, begun, begins, hangs⟩
    exact ⟨number, start, begun, begins, within, hangs⟩

/-- A run fails as its last attempt. -/
theorem run_eq_error_iff
    {policy : AttemptPolicy}
    {failure : ε}
    {later : Nat}
    {reached : σ} :
    (policy.run operation).run now state = some (.error failure, later, reached) ↔
      AttemptEnds policy.backoff operation now state policy.attempts (.error failure) later
        reached := by
  rw [run_eq_some_iff]
  constructor
  · rintro ⟨number, start, begun, begins, within, ended, ⟨_, ⟨⟩⟩ | rfl⟩
    exact ⟨start, begun, begins, ended⟩
  · rintro ⟨start, begun, begins, ended⟩
    exact ⟨policy.attempts, start, begun, begins, Nat.le_refl _, ended, Or.inr rfl⟩

end Attempts

/-- A run of attempts, whatever the operation does.

The count of the attempts fits the word that holds their number, and the record of the calls
changes nothing. The run succeeds as the first attempt that succeeds, if it is one of those
that may be made, and otherwise fails as the last of these; it never ends exactly when one of them
does not. Where some attempt is the first to succeed, there is one call for each number up to it, or
up to the last one that may be made if that is smaller; where the last one fails, there is one call
for each number up to the last. An attempt after the first one begins where a sleep of the length of
the pause ends that has begun at the end of the attempt before it: on the first whole millisecond at
which the pause is over, or thirty years of it. -/
theorem attempts_are_counted_to_first_success_or_last
    (attempts : UInt32)
    (backoff : Nat)
    (operation : Nat → Activity σ (Except ε α))
    (now : Nat)
    (state : σ) :
    let policy := ofAttempts attempts.toNat backoff
    let last := max 1 attempts.toNat
    let run := (policy.run operation).run now state
    let logged := (policy.run (logged operation)).run now (state, [])
    let counted := countFrom (lastAttempt attempts) backoff
      (fun word => AttemptPolicy.logged operation word.toNat) 1
    let Ends := AttemptEnds policy.backoff operation now state
    (last < UInt32.size ∧ counted.run now (state, []) = logged ∧
      logged.map (fun (result, later, reached, _) => (result, later, reached)) = run) ∧
    (∀ value later reached, run = some (.ok value, later, reached) ↔
      ∃ number ≤ last, Ends number (.ok value) later reached) ∧
    (∀ failure later reached, run = some (.error failure, later, reached) ↔
      Ends last (.error failure) later reached) ∧
    (run = none ↔ ∃ number ≤ last, AttemptHangs policy.backoff operation now state number) ∧
    (∀ number value later reached, Ends number (.ok value) later reached →
      ∃ result ended left calls, logged = some (result, ended, left, calls) ∧
        Ends (min number last) result ended left ∧
        calls.map Call.number = List.range' 1 (min number last)) ∧
    (∀ failure later reached, Ends last (.error failure) later reached →
      ∃ calls, logged = some (.error failure, later, reached, calls) ∧
        calls.map Call.number = List.range' 1 last) ∧
    (∀ number start begun, 1 ≤ number →
      Begins policy.backoff operation 1 now state (number + 1) start begun →
      ∃ failure ended, Ends number (.error failure) ended begun ∧
        (Activity.sleep backoff).run ended begun = some ((), start, begun) ∧
        Duration.millisecond ∣ start ∧
        ended + min backoff Clock.farFuture ≤ start ∧
        start < ended + min backoff Clock.farFuture + Duration.millisecond ∧
        (Duration.millisecond ∣ ended → Duration.millisecond ∣ backoff →
          backoff ≤ Clock.farFuture → start = ended + backoff)) := by
  intro policy last run logged counted Ends
  have lastFits : last < UInt32.size := Nat.max_lt.2 ⟨by decide, attempts.toNat_lt_size⟩
  have numbers : policy.attempts = last := attempts_ofAttempts attempts.toNat backoff
  rw [← numbers] at lastFits ⊢
  refine ⟨⟨lastFits, ?_, ?_⟩, fun _ _ _ => run_eq_ok_iff, fun _ _ _ => run_eq_error_iff,
    run_eq_none_iff_hangs, ?_, ?_, ?_⟩
  · exact congrArg (fun work => work.run now (state, []))
      (countFrom_one backoff attempts (AttemptPolicy.logged operation))
  · exact shadows_logged policy operation now state []
  · intro number value later reached succeeds
    obtain ⟨result, ended, left, ends, settled⟩ := succeeds.within_or_exhausted
    obtain ⟨calls, ran, numbered⟩ := ends.exists_calls (Nat.min_le_right _ _) settled
    exact ⟨result, ended, left, calls, ran, ends, numbered⟩
  · intro failure later reached fails
    exact fails.exists_calls (Nat.le_refl _) (Or.inr rfl)
  · intro number start begun first begins
    cases begins with
    | first => omega
    | @again _ earlier ended before _ failure begins failed =>
      refine ⟨failure, ended, ⟨earlier, before, begins, failed⟩,
        Activity.run_sleep_eq_wake backoff ended begun, Clock.dvd_roundUp _, Clock.le_roundUp _,
        Clock.roundUp_lt _, fun whole wholePause short => ?_⟩
      show Clock.wake ended backoff = ended + backoff
      rw [Clock.wake_eq whole wholePause, Clock.slept_eq short]

/-- Two attempts take no time, and the pause between them is to last one and a half milliseconds.
The run ends after two. -/
theorem fraction_of_a_backoff_is_slept_to_its_end :
    let policy := ofAttempts 2 1500000
    let operation : Nat → Activity Unit (Except Nat Unit) := fun number => pure (.error number)
    (policy.run (logged operation)).run 0 ((), []) =
      some (.error 2, 2000000, (), [{ number := 1, instant := 0 },
        { number := 2, instant := 2000000 }]) ∧
    (2000000 : Nat) ≠ 0 + policy.backoff := by
  decide +kernel

end Fleet.AttemptPolicy
