import Fleet.Proofs.Script.Recorded

/-!
# Attempts in turn

The attempts of a run follow each other: the first one begins with the run, and each next one when
the pause after the failure of the one before is over, in the state that the failure has left. A run
ends as the first attempt that succeeds, or else as the last one that may be made, and it never ends
exactly when it comes to an attempt that never ends.

How often the operation is called is not in the result of a run. Every call is put on record beside
the state, and the record holds the numbers of the attempts from one up to that of the attempt with
which the run ends.
-/

namespace Fleet.AttemptPolicy

open Activity (Echoes Shadows)

variable {σ ε α : Type}

/-- An attempt begins at an instant in a state, when the first one does so with the run. -/
inductive Begins (backoff : Nat) (operation : Nat → Activity σ (Except ε α)) (origin now : Nat)
    (state : σ) : Nat → Nat → σ → Prop where
  | first : Begins backoff operation origin now state origin now state
  /-- The attempt before has failed, and the pause behind it is over. -/
  | again {number start ended : Nat} {before after : σ} {failure : ε}
      (earlier : Begins backoff operation origin now state number start before)
      (failed : (operation number).run start before = some (.error failure, ended, after)) :
    Begins backoff operation origin now state (number + 1) (Clock.wake ended backoff) after

/-- An attempt ends a run: it is one of those that may be made, and it has succeeded, or there is
none left to be made. -/
structure Concludes (backoff : Nat) (operation : Nat → Activity σ (Except ε α))
    (origin now : Nat)
    (state : σ) (final number start : Nat) (begun : σ) (result : Except ε α) (later : Nat)
    (reached : σ) : Prop where
  begins : Begins backoff operation origin now state number start begun
  within : number ≤ final
  ended : (operation number).run start begun = some (result, later, reached)
  settled : (∃ value, result = .ok value) ∨ number = final

section Runs

variable {backoff : Nat} {operation : Nat → Activity σ (Except ε α)}
  {origin now : Nat} {state : σ}

theorem Begins.origin_le
    {number start : Nat}
    {begun : σ}
    (begins : Begins backoff operation origin now state number start begun) :
    origin ≤ number := by
  induction begins with
  | first => exact Nat.le_refl origin
  | again _ _ inductionHypothesis => exact Nat.le_succ_of_le inductionHypothesis

/-- What begins after a failure and its pause begins after all. -/
theorem Begins.of_failed
    {failure : ε}
    {ended number start : Nat}
    {after begun : σ}
    (failed : (operation origin).run now state = some (.error failure, ended, after))
    (begins : Begins backoff operation (origin + 1) (Clock.wake ended backoff) after number start
      begun) :
    Begins backoff operation origin now state number start begun := by
  induction begins with
  | first => exact .again .first failed
  | again _ again inductionHypothesis => exact .again inductionHypothesis again

/-- An attempt is the first one, or it begins after the failure of the first one and its pause. -/
theorem Begins.first_or_after
    {number start : Nat}
    {begun : σ}
    (begins : Begins backoff operation origin now state number start begun) :
    (number = origin ∧ start = now ∧ begun = state) ∨
      ∃ failure ended after,
        (operation origin).run now state = some (.error failure, ended, after) ∧
          Begins backoff operation (origin + 1) (Clock.wake ended backoff) after number start
            begun := by
  induction begins with
  | first => exact Or.inl ⟨rfl, rfl, rfl⟩
  | again _ failed inductionHypothesis =>
    rcases inductionHypothesis with
      ⟨rfl, rfl, rfl⟩ | ⟨failure, ended, after, before, begins⟩
    · exact Or.inr ⟨_, _, _, failed, .first⟩
    · exact Or.inr ⟨failure, ended, after, before, .again begins failed⟩

variable (backoff operation) in
/-- After a failure there is a pause, and then the rest of the attempts. -/
theorem run_attemptFrom_of_failed
    {number more ended : Nat}
    {failure : ε}
    {after : σ}
    (failed : (operation number).run now state = some (.error failure, ended, after)) :
    (attemptFrom backoff operation number (more + 1)).run now state =
      (attemptFrom backoff operation (number + 1) more).run (Clock.wake ended backoff) after := by
  rw [attemptFrom, Activity.bind_eq_bind, Activity.run_bind_of_run failed]
  exact Activity.run_bind_of_run (Activity.run_sleep_eq_wake backoff ended after)

variable (backoff) in
/-- After a success there is nothing. -/
theorem run_attemptFrom_of_succeeded
    {number more later : Nat}
    {value : α}
    {reached : σ}
    (succeeded : (operation number).run now state = some (.ok value, later, reached)) :
    (attemptFrom backoff operation number (more + 1)).run now state =
      some (.ok value, later, reached) := by
  rw [attemptFrom, Activity.bind_eq_bind, Activity.run_bind_of_run succeeded]
  rfl

/-- A run of attempts ends as the attempt does that concludes it. -/
theorem run_attemptFrom_eq_some_iff
    {more later : Nat}
    {result : Except ε α}
    {reached : σ} :
    (attemptFrom backoff operation origin more).run now state = some (result, later, reached) ↔
      ∃ number start begun, Concludes backoff operation origin now state (origin + more) number
        start begun result later reached := by
  induction more generalizing origin now state with
  | zero =>
    constructor
    · intro ran
      exact ⟨origin, now, state, .first, Nat.le_refl origin, ran, Or.inr rfl⟩
    · rintro ⟨number, start, begun, begins, within, ended, _⟩
      rcases begins.first_or_after with ⟨rfl, rfl, rfl⟩ | ⟨_, _, _, _, later⟩
      · exact ended
      · have := later.origin_le
        omega
  | succ more inductionHypothesis =>
    constructor
    · intro ran
      cases attempted : (operation origin).run now state with
      | none =>
        rw [attemptFrom, Activity.bind_eq_bind, Activity.run_bind, attempted] at ran
        cases ran
      | some ending =>
        obtain ⟨_ | _, ended, after⟩ := ending
        · rw [run_attemptFrom_of_failed backoff operation attempted] at ran
          obtain ⟨number, start, begun, begins, within, last, settled⟩ :=
            inductionHypothesis.1 ran
          rw [Nat.add_right_comm] at within settled
          exact ⟨number, start, begun, begins.of_failed attempted, within, last, settled⟩
        · rw [run_attemptFrom_of_succeeded backoff attempted] at ran
          cases ran
          exact ⟨origin, now, state, .first, Nat.le_add_right _ _, attempted,
            Or.inl ⟨_, rfl⟩⟩
    · rintro ⟨number, start, begun, begins, within, ended, settled⟩
      rcases begins.first_or_after with
        ⟨rfl, rfl, rfl⟩ | ⟨failure, pausing, after, failed, later⟩
      · rcases settled with ⟨value, rfl⟩ | last
        · exact run_attemptFrom_of_succeeded backoff ended
        · omega
      · rw [run_attemptFrom_of_failed backoff operation failed]
        refine inductionHypothesis.2 ⟨number, start, begun, later, ?_, ended, ?_⟩
        · rwa [Nat.add_right_comm]
        · rwa [Nat.add_right_comm]

/-- A run of attempts never ends when one of the attempts it comes to never ends. -/
theorem run_attemptFrom_eq_none_iff {more : Nat} :
    (attemptFrom backoff operation origin more).run now state = none ↔
      ∃ number start begun, Begins backoff operation origin now state number start begun ∧
        number ≤ origin + more ∧ (operation number).run start begun = none := by
  induction more generalizing origin now state with
  | zero =>
    constructor
    · intro hangs
      exact ⟨origin, now, state, .first, Nat.le_refl origin, hangs⟩
    · rintro ⟨number, start, begun, begins, within, hangs⟩
      rcases begins.first_or_after with ⟨rfl, rfl, rfl⟩ | ⟨_, _, _, _, later⟩
      · exact hangs
      · have := later.origin_le
        omega
  | succ more inductionHypothesis =>
    constructor
    · intro hangs
      cases attempted : (operation origin).run now state with
      | none => exact ⟨origin, now, state, .first, Nat.le_add_right _ _, attempted⟩
      | some ending =>
        obtain ⟨_ | _, ended, after⟩ := ending
        · rw [run_attemptFrom_of_failed backoff operation attempted] at hangs
          obtain ⟨number, start, begun, begins, within, stuck⟩ := inductionHypothesis.1 hangs
          rw [Nat.add_right_comm] at within
          exact ⟨number, start, begun, begins.of_failed attempted, within, stuck⟩
        · rw [run_attemptFrom_of_succeeded backoff attempted] at hangs
          cases hangs
    · rintro ⟨number, start, begun, begins, within, hangs⟩
      rcases begins.first_or_after with
        ⟨rfl, rfl, rfl⟩ | ⟨failure, pausing, after, failed, later⟩
      · rw [attemptFrom, Activity.bind_eq_bind, Activity.run_bind, hangs]
        rfl
      · rw [run_attemptFrom_of_failed backoff operation failed]
        refine inductionHypothesis.2 ⟨number, start, begun, later, ?_, hangs⟩
        rwa [Nat.add_right_comm]

end Runs

section Policies

variable {policy : AttemptPolicy} {operation : Nat → Activity σ (Except ε α)}
  {now : Nat} {state : σ}

theorem run_eq_some_iff
    {result : Except ε α}
    {later : Nat}
    {reached : σ} :
    (policy.run operation).run now state = some (result, later, reached) ↔
      ∃ number start begun, Concludes policy.backoff operation 1 now state policy.attempts number
        start begun result later reached := by
  rw [AttemptPolicy.run, run_attemptFrom_eq_some_iff, attempts, Nat.add_comm]

theorem run_eq_none_iff :
    (policy.run operation).run now state = none ↔
      ∃ number start begun, Begins policy.backoff operation 1 now state number start begun ∧
        number ≤ policy.attempts ∧ (operation number).run start begun = none := by
  rw [AttemptPolicy.run, run_attemptFrom_eq_none_iff, attempts, Nat.add_comm]

end Policies

/-! ## Calls on record -/

/-- A call of the operation. -/
structure Call where
  number : Nat
  instant : Nat
  deriving DecidableEq, Repr

/-- The operation with its calls on record, each as it is made. -/
def logged (operation : Nat → Activity σ (Except ε α)) (number : Nat) :
    Activity (σ × List Call) (Except ε α) :=
  .step (fun now whole => (whole.1, whole.2 ++ [{ number, instant := now }])) fun _ _ =>
    (operation number).focus (Part.first σ (List Call))

section Calls

variable {operation : Nat → Activity σ (Except ε α)} {now : Nat} {state : σ}

theorem run_logged
    (number : Nat)
    (calls : List Call) :
    (logged operation number).run now (state, calls) =
      ((operation number).run now state).map fun (result, later, reached) =>
        (result, later, reached, calls ++ [{ number, instant := now }]) :=
  Activity.run_focus_first _ _ _ _

theorem echoes_logged (number : Nat) :
    Echoes Prod.fst id (logged operation number) (operation number) :=
  .aside (fun _ _ => rfl) fun _ _ => .focus _

/-- Without the record of its calls a run is the run itself. -/
theorem shadows_logged
    (policy : AttemptPolicy)
    (operation : Nat → Activity σ (Except ε α)) :
    Shadows (policy.run (logged operation)) (policy.run operation) id :=
  (echoes_attemptFrom echoes_logged policy.backoff).shadows

/-- The numbers up to the one before and the number itself are the numbers up to it. -/
theorem range'_concat_number
    {origin number : Nat}
    (counted : origin ≤ number) :
    List.range' origin (number - origin) ++ [number] =
      List.range' origin (number + 1 - origin) := by
  rw [Nat.sub_add_comm counted, List.range'_concat, Nat.one_mul, Nat.add_sub_cancel' counted]

/-- An attempt of a run on record has one call before it for each attempt before it, made where
that attempt began. -/
theorem Begins.of_logged
    {backoff origin number start : Nat}
    {whole : σ × List Call}
    (begins : Begins backoff (logged operation) origin now (state, []) number start whole) :
    Begins backoff operation origin now state number start whole.1 ∧
      whole.2.map Call.number = List.range' origin (number - origin) ∧
      ∀ call ∈ whole.2, ∃ begun,
        Begins backoff operation origin now state call.number call.instant begun := by
  induction begins with
  | first => exact ⟨.first, by rw [Nat.sub_self]; rfl, fun _ among => by cases among⟩
  | @again number start ended before after failure earlier failed inductionHypothesis =>
    obtain ⟨begins, numbered, started⟩ := inductionHypothesis
    obtain ⟨before, calls⟩ := before
    rw [run_logged, Option.map_eq_some_iff] at failed
    obtain ⟨⟨result, later, reached⟩, failed, same⟩ := failed
    cases same
    refine ⟨.again begins failed, ?_, fun call among => ?_⟩
    · rw [List.map_append, numbered]
      exact range'_concat_number begins.origin_le
    · rcases List.mem_append.1 among with made | last
      · exact started call made
      · rw [List.mem_singleton.1 last]
        exact ⟨before, begins⟩

/-- A run that ends has called the operation once for each number up to that of the attempt that
concludes it, each time where the attempt of that number began. -/
theorem exists_concludes_of_logged
    {policy : AttemptPolicy}
    {result : Except ε α}
    {later : Nat}
    {reached : σ}
    {calls : List Call}
    (ran : (policy.run (logged operation)).run now (state, []) =
      some (result, later, reached, calls)) :
    ∃ number start begun,
      Concludes policy.backoff operation 1 now state policy.attempts number start begun result later
        reached ∧
      calls.map Call.number = List.range' 1 number ∧
      ∀ call ∈ calls, ∃ begun,
        Begins policy.backoff operation 1 now state call.number call.instant begun := by
  obtain ⟨number, start, ⟨begun, made⟩, begins, within, ended, settled⟩ :=
    run_eq_some_iff.1 ran
  obtain ⟨begins, numbered, started⟩ := begins.of_logged
  rw [run_logged, Option.map_eq_some_iff] at ended
  obtain ⟨⟨last, finished, left⟩, ended, same⟩ := ended
  cases same
  refine ⟨number, start, begun, ⟨begins, within, ended, settled⟩, ?_, fun call among => ?_⟩
  · rw [List.map_append, numbered]
    exact range'_concat_number begins.origin_le
  · rcases List.mem_append.1 among with early | last
    · exact started call early
    · rw [List.mem_singleton.1 last]
      exact ⟨begun, begins⟩

end Calls

end Fleet.AttemptPolicy
