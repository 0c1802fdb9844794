import Fleet.Proofs.Activity.Abiding
import Fleet.Proofs.Activity.Focus
import Fleet.Proofs.Activity.Map
import Fleet.Proofs.Activity.Moment
import Fleet.Retry.Poll

/-!
# What a wait remembers

A wait ends with what its last evaluation left, be it true or false, and an evaluation that is cut
off leaves what was there before. So whatever every evaluation preserves holds at the end of a wait.
The memory of a wait may also be kept in more detail, and the wait be for a part of a larger state,
without any effect on the wait. A wait does no more to the state than its evaluations do.
-/

namespace Fleet.PollPolicy

variable {σ μ ν : Type}

/-- An evaluation either has its result or is cut off and counts as false. -/
theorem evaluate_cases
    {deadline : Option Nat}
    {test : μ → Activity σ (Bool × μ)}
    {memory : μ}
    {path : List (Moment σ)}
    {answer : Bool × μ}
    (followed : (evaluate deadline test memory).along path = some answer) :
    (test memory).Occurs path answer ∨ answer = (false, memory) := by
  cases deadline with
  | none => exact Or.inl (Activity.Occurs.of_along followed)
  | some final =>
    rcases (Activity.along_bind_iff _ _ _ _).1 followed with
      ⟨early, middle, now, rfl, -, bounded⟩
    rcases (Activity.along_bind_iff _ _ _ _).1 bounded with
      ⟨during, late, given, rfl, limited, ended⟩
    rcases (Activity.along_done_iff _ _ _).1 ended with ⟨rfl, rfl⟩
    rcases (Activity.along_step_iff _ _ _ _).1 limited with ⟨start, rest, rfl, answered⟩
    cases given with
    | none => exact Or.inr rfl
    | some result =>
      refine Or.inl ⟨rest, ⟨early ++ [start], [], ?_⟩,
        Activity.along_of_along_before answered⟩
      simp

section Invariant

variable {test : μ → Activity σ (Bool × μ)} (Holds : Bool → μ → Prop)
  {path : List (Moment σ)}
  (preserved : ∀ memory answer, Holds false memory → (test memory).Occurs path answer →
    Holds answer.1 answer.2)

include preserved

/-- What every evaluation preserves holds when a poll ends. An evaluation that is cut off leaves the
memory as it was, so it needs no step of its own. -/
theorem poll_preserves
    {period : Nat}
    {deadline : Option Nat}
    {remaining : Nat}
    {memory : μ}
    {part : List (Moment σ)}
    {answer : Bool × μ}
    (inside : part <:+: path)
    (initially : Holds false memory)
    (followed : (poll period deadline test remaining memory).along part = some answer) :
    Holds answer.1 answer.2 := by
  induction remaining generalizing memory part with
  | zero => simp [poll] at followed
  | succ remaining inductionHypothesis =>
    rcases (Activity.along_bind_iff _ _ _ _).1 followed with
      ⟨early, late, ⟨holds, after⟩, rfl, evaluated, decided⟩
    have afterwards : Holds holds after := by
      rcases evaluate_cases evaluated with occurs | abandoned
      · have contained : early <:+: path := (List.prefix_append early late).isInfix.trans inside
        exact preserved memory (holds, after) initially (occurs.mono contained)
      · cases abandoned
        exact initially
    cases holds with
    | true =>
      rcases (Activity.along_done_iff _ _ _).1 decided with ⟨-, rfl⟩
      exact afterwards
    | false =>
      rcases (Activity.along_bind_iff _ _ _ _).1 decided with
        ⟨_, pausing, now, rfl, -, paused⟩
      split at paused
      · rcases (Activity.along_done_iff _ _ _).1 paused with ⟨-, rfl⟩
        exact afterwards
      · rcases (Activity.along_bind_iff _ _ _ _).1 paused with
          ⟨asleep, awake, _, rfl, -, resumed⟩
        rcases (Activity.along_bind_iff _ _ _ _).1 resumed with
          ⟨looking, again, later, rfl, -, repeated⟩
        split at repeated
        · rcases (Activity.along_done_iff _ _ _).1 repeated with ⟨-, rfl⟩
          exact afterwards
        · refine inductionHypothesis (List.IsInfix.trans ?_ inside) afterwards repeated
          refine List.IsSuffix.isInfix ?_
          simp only [← List.append_assoc]
          exact List.suffix_append _ again

/-- What every evaluation preserves holds when a wait ends. -/
theorem follow_preserves
    {policy : PollPolicy}
    {memory : μ}
    {answer : Bool × μ}
    (initially : Holds false memory)
    (followed : (policy.follow test memory).along path = some answer) :
    Holds answer.1 answer.2 := by
  rcases (Activity.along_bind_iff _ _ _ _).1 followed with ⟨early, late, now, rfl, -, polled⟩
  exact poll_preserves Holds preserved (List.suffix_append early late).isInfix initially polled

end Invariant

/-- A wait that succeeds has seen its test hold. -/
theorem occurs_of_waitUntil
    {policy : PollPolicy}
    {test : Activity σ Bool}
    {path : List (Moment σ)}
    (followed : (policy.waitUntil test).along path = some true) :
    test.Occurs path true := by
  rcases (Activity.along_bind_iff _ _ _ _).1 followed with
    ⟨early, late, ⟨holds, memory⟩, rfl, waited, ended⟩
  rcases (Activity.along_done_iff _ _ _).1 ended with ⟨rfl, rfl⟩
  have seen : true = true → test.Occurs early true := by
    refine follow_preserves (fun holds _ => holds = true → test.Occurs early true) ?_ (by simp)
      waited
    rintro _ ⟨holds, after⟩ - evaluated (rfl : holds = true)
    rcases (Activity.occurs_map_iff (·, ()) test early (true, after)).1 evaluated with
      ⟨result, occurs, same⟩
    cases same
    exact occurs
  exact (seen rfl).mono (List.prefix_append early []).isInfix

/-! ## Keeping more -/

section Projection

variable {test : μ → Activity σ (Bool × μ)} {detailed : ν → Activity σ (Bool × ν)}
  {forget : ν → μ}
  (same : ∀ memory, test (forget memory) = Prod.map id forget <$> detailed memory)

include same

/-- Part of the memory may be forgotten before an evaluation or after it. -/
theorem evaluate_forget
    (deadline : Option Nat)
    (memory : ν) :
    evaluate deadline test (forget memory) =
      Prod.map id forget <$> evaluate deadline detailed memory := by
  cases deadline with
  | none => exact same memory
  | some final =>
    simp only [evaluate, Activity.bind_eq_bind, Activity.map_bind, same, Activity.limited_map,
      Activity.bind_map, Activity.pure_eq_done, Activity.map_done]
    congr 1
    funext now
    congr 1
    funext answer
    cases answer <;> rfl

/-- Part of the memory may be forgotten before a wait or after it. -/
theorem poll_forget
    (period : Nat)
    (deadline : Option Nat)
    (remaining : Nat)
    (memory : ν) :
    poll period deadline test remaining (forget memory) =
      Prod.map id forget <$> poll period deadline detailed remaining memory := by
  induction remaining generalizing memory with
  | zero => rfl
  | succ remaining inductionHypothesis =>
    simp only [poll, Activity.bind_eq_bind, Activity.map_bind, evaluate_forget same,
      Activity.bind_map, Activity.pure_eq_done, Prod.map_fst, Prod.map_snd, id_eq,
      inductionHypothesis]
    congr 1
    funext answer
    split
    · rfl
    · simp only [Activity.map_bind]
      congr 1
      funext now
      split
      · rfl
      · simp only [Activity.map_bind]
        congr 1
        funext slept
        congr 1
        funext later
        split <;> rfl

/-- A wait that remembers more is the same wait. -/
theorem follow_forget
    (policy : PollPolicy)
    (memory : ν) :
    policy.follow test (forget memory) =
      Prod.map id forget <$> policy.follow detailed memory := by
  simp only [follow, Activity.bind_eq_bind, Activity.map_bind, poll_forget same]

end Projection

/-! ## Waiting for a part of the state -/

section Part

variable {τ : Type} {part : Part τ σ} (exact : part.Exact)

include exact

theorem evaluate_focus
    (deadline : Option Nat)
    (test : μ → Activity σ (Bool × μ))
    (memory : μ) :
    evaluate deadline (fun memory => (test memory).focus part) memory =
      (evaluate deadline test memory).focus part := by
  cases deadline with
  | none => rfl
  | some final =>
    simp only [evaluate, Activity.bind_eq_bind, Activity.focus_bind, Activity.pure_eq_done,
      Activity.focus_currentInstant exact, Activity.focus_limited exact]
    rfl

/-- A wait for a test on a part of the state is a wait on that part. -/
theorem poll_focus
    (period : Nat)
    (deadline : Option Nat)
    (test : μ → Activity σ (Bool × μ))
    (remaining : Nat)
    (memory : μ) :
    poll period deadline (fun memory => (test memory).focus part) remaining memory =
      (poll period deadline test remaining memory).focus part := by
  induction remaining generalizing memory with
  | zero => rfl
  | succ remaining inductionHypothesis =>
    simp only [poll, Activity.bind_eq_bind, Activity.focus_bind, Activity.pure_eq_done,
      evaluate_focus exact, inductionHypothesis]
    congr 1
    funext answer
    split
    · rfl
    · simp only [Activity.focus_bind, Activity.focus_currentInstant exact]
      congr 1
      funext now
      split
      · rfl
      · simp only [Activity.focus_bind, Activity.focus_currentInstant exact,
          Activity.focus_sleep exact]
        congr 1
        funext slept
        congr 1
        funext later
        split <;> rfl

theorem follow_focus
    (policy : PollPolicy)
    (test : μ → Activity σ (Bool × μ))
    (memory : μ) :
    policy.follow (fun memory => (test memory).focus part) memory =
      (policy.follow test memory).focus part := by
  simp only [follow, Activity.bind_eq_bind, Activity.focus_bind,
    Activity.focus_currentInstant exact, poll_focus exact]

/-- A wait for something about a part of the state is the wait on that part. -/
theorem waitUntil_focus
    (policy : PollPolicy)
    (test : Activity σ Bool) :
    policy.waitUntil (test.focus part) = (policy.waitUntil test).focus part := by
  have tested : (test.focus part).bind (fun holds => .done (holds, ())) =
      (test.bind fun holds => .done (holds, ())).focus part := by
    rw [Activity.focus_bind]
    rfl
  simp only [waitUntil, Activity.bind_eq_bind, Activity.pure_eq_done, tested]
  rw [follow_focus exact, Activity.focus_bind]
  rfl

end Part

section Respecting

open Activity (Respects)

variable {contract : Contract σ} {test : μ → Activity σ (Bool × μ)}
  (respects : ∀ memory state, (test memory).Respects contract state)

include respects

theorem respects_evaluate
    (deadline : Option Nat)
    (memory : μ)
    (state : σ) :
    (evaluate deadline test memory).Respects contract state := by
  cases deadline with
  | none => exact respects memory state
  | some final =>
    refine Activity.respects_currentInstant.respects_bind fun now reached _ => ?_
    exact ((respects memory reached).limited _).respects_bind fun _ _ _ =>
      Activity.respects_done _

/-- A wait respects the contract that its test respects. -/
theorem respects_poll
    (period : Nat)
    (deadline : Option Nat)
    (remaining : Nat)
    (memory : μ)
    (state : σ) :
    (poll period deadline test remaining memory).Respects contract state := by
  induction remaining generalizing memory state with
  | zero => trivial
  | succ remaining inductionHypothesis =>
    refine (respects_evaluate respects deadline memory state).respects_bind
      fun answer reached _ => ?_
    dsimp only
    split
    · exact Activity.respects_done _
    · refine Activity.respects_currentInstant.respects_bind fun now reached _ => ?_
      split
      · exact Activity.respects_done _
      · refine (Activity.respects_sleep period).respects_bind fun _ reached _ => ?_
        refine Activity.respects_currentInstant.respects_bind fun now reached _ => ?_
        split
        · exact Activity.respects_done _
        · exact inductionHypothesis answer.2 reached

/-- A wait does no more than its evaluations do. -/
theorem respects_follow
    (policy : PollPolicy)
    (memory : μ)
    (state : σ) :
    (policy.follow test memory).Respects contract state :=
  Activity.respects_currentInstant.respects_bind fun _ reached _ =>
    respects_poll respects policy.period _ _ memory reached

end Respecting

end Fleet.PollPolicy
