import Fleet.Activity.Deadline

/-!
# Polling under a budget

A poll policy re-evaluates a test until it holds or a time budget is used up. Each evaluation may
take the rest of the budget and is abandoned when it takes longer. A false answer is followed by a
pause of one period, and no evaluation starts after the budget's end. Every pause of positive length
brings the end of the budget closer, so the number of evaluations is bounded in advance; a budget
that reaches past the end of the clock has no end.
-/

namespace Fleet

/-- How long, and how often, a condition is tested. -/
structure PollPolicy where
  /-- The total time that one wait may take. -/
  budget : Nat
  /-- The pause after a false answer. -/
  period : Nat
  deriving DecidableEq, Repr

namespace PollPolicy

variable {σ μ : Type}

/-- The policy that leaves room for a number of pauses. -/
def ofAttempts (attempts period : Nat) : PollPolicy :=
  { budget := Duration.repeated period attempts, period := period }

/-- The policy that waits for a login port unless another is asked for: a minute of one-second
pauses. -/
def forSockets : PollPolicy :=
  ofAttempts 60 Duration.second

/-- The pauses that may follow one another when nothing bounds a wait. -/
def unboundedEvaluations : Nat := Text.largest64

/-- The most evaluations that a wait with this policy can start. -/
def evaluations (policy : PollPolicy) (deadline : Option Nat) : Nat :=
  if deadline.isSome && 0 < policy.period then
    policy.budget / Clock.slept policy.period + 1
  else
    unboundedEvaluations

/-- One evaluation, abandoned at the deadline; an abandoned evaluation counts as false and leaves
nothing to remember. -/
def evaluate
    (deadline : Option Nat)
    (test : μ → Activity σ (Bool × μ))
    (memory : μ) :
    Activity σ (Bool × μ) :=
  match deadline with
  | none => test memory
  | some final => do
    let now ← Activity.currentInstant
    let answer ← Activity.limited (final - now) (test memory)
    pure (answer.getD (false, memory))

/-- Whether an instant lies at or after the deadline. -/
def isReached (deadline : Option Nat) (now : Nat) : Bool :=
  deadline.any fun final => final ≤ now

/-- Whether an instant lies after the deadline. -/
def isPassed (deadline : Option Nat) (now : Nat) : Bool :=
  deadline.any fun final => final < now

/-- Evaluate a test up to a number of times, with a pause after each false answer. -/
def poll
    (period : Nat)
    (deadline : Option Nat)
    (test : μ → Activity σ (Bool × μ)) :
    Nat → μ → Activity σ (Bool × μ)
  | 0, _ => .hang
  | remaining + 1, memory => do
    let (holds, memory) ← evaluate deadline test memory
    if holds then
      pure (true, memory)
    else if isReached deadline (← Activity.currentInstant) then
      pure (false, memory)
    else
      Activity.sleep period
      if isPassed deadline (← Activity.currentInstant) then
        pure (false, memory)
      else
        poll period deadline test remaining memory

/-- Wait until a test holds that passes a memory from each evaluation to the next; the answer says
whether it held within the budget, and what is remembered at the end. -/
def follow
    (policy : PollPolicy)
    (test : μ → Activity σ (Bool × μ))
    (memory : μ) :
    Activity σ (Bool × μ) := do
  let deadline := Clock.later (← Activity.currentInstant) policy.budget
  poll policy.period deadline test (policy.evaluations deadline) memory

/-- Wait until a test holds; the answer says whether it did within the budget. -/
def waitUntil (policy : PollPolicy) (test : Activity σ Bool) : Activity σ Bool := do
  let (holds, _) ← policy.follow (fun _ => do pure (← test, ())) ()
  pure holds

@[simp]
theorem ofAttempts_period (attempts period : Nat) : (ofAttempts attempts period).period = period :=
  rfl

@[simp]
theorem ofAttempts_budget (attempts period : Nat) :
    (ofAttempts attempts period).budget = Duration.repeated period attempts :=
  rfl

end PollPolicy

end Fleet
