import Fleet.Activity.Basic

/-!
# A fixed number of attempts

An attempt policy repeats a fallible operation a fixed number of times, counting the attempts from
one, with a pause between a failure and the next attempt and none after the last. The result is that
of the first success or else the failure of the last attempt.
-/

namespace Fleet

/-- How often an operation is attempted, and the pause between attempts. -/
structure AttemptPolicy where
  /-- The pauses that may be made: one less than the attempts. -/
  pauses : Nat
  /-- The length of a pause. -/
  backoff : Nat
  deriving DecidableEq, Repr

namespace AttemptPolicy

variable {σ ε α : Type}

/-- The policy with a number of attempts; at least one is always made. -/
def ofAttempts (attempts backoff : Nat) : AttemptPolicy :=
  { pauses := attempts - 1, backoff := backoff }

/-- The policy for checking a node after its boot: five attempts, ten seconds apart. -/
def forVerification : AttemptPolicy :=
  ofAttempts 5 (Duration.ofSeconds 10)

/-- The largest number of attempts. -/
def attempts (policy : AttemptPolicy) : Nat :=
  policy.pauses + 1

/-- Make the attempt with a given number, and after a failure up to so many more. -/
def attemptFrom
    (backoff : Nat)
    (operation : Nat → Activity σ (Except ε α))
    (number : Nat) :
    Nat → Activity σ (Except ε α)
  | 0 => operation number
  | more + 1 => do
    match ← operation number with
    | .ok result => pure (.ok result)
    | .error _ =>
      Activity.sleep backoff
      attemptFrom backoff operation (number + 1) more

/-- Run an operation, which is given the number of the attempt, until it succeeds or the attempts
are used up. -/
def run (policy : AttemptPolicy) (operation : Nat → Activity σ (Except ε α)) :
    Activity σ (Except ε α) :=
  attemptFrom policy.backoff operation 1 policy.pauses

@[simp]
theorem attempts_ofAttempts (attempts backoff : Nat) :
    (ofAttempts attempts backoff).attempts = max 1 attempts := by
  simp only [ofAttempts, AttemptPolicy.attempts]
  omega

end AttemptPolicy

end Fleet
