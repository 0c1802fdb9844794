import Fleet.Proofs.Activity.Focus

/-!
# What holds at every moment

An activity may hang, and it may be cut off at any instant. Even so it can be known that every state
through which it passes is safe, and that its goal is reached if it finishes. Unlike a contract,
this says nothing about whether it finishes, and it leaves the activity alone with its state. That
an activity finishes is a statement of its own.
-/

namespace Fleet.Activity

variable {σ α β : Type}

/-- From a moment on, an activity by itself passes through safe states only, and it reaches its goal
if it finishes. -/
def Keeps (safe : σ → Prop) (goal : α → Nat → σ → Prop) :
    Activity σ α → Nat → σ → Prop
  | done result, now, state => goal result now state
  | step effect next, now, state =>
    safe (effect now state) ∧ (next now state).Keeps safe goal now (effect now state)
  | wait alarm next, now, state => next.Keeps safe goal (max now alarm.instant) state
  | hang, _, _ => True

variable {safe : σ → Prop} {goal : α → Nat → σ → Prop} {now : Nat} {state : σ}

theorem keeps_modify
    {change : σ → σ}
    {goal : Unit → Nat → σ → Prop}
    (safely : safe (change state))
    (reaches : goal () now (change state)) :
    (modify change).Keeps safe goal now state :=
  ⟨safely, reaches⟩

/-- A sequence is safe when its second part is safe from wherever the first part may end. -/
theorem Keeps.bind
    {activity : Activity σ α}
    {continuation : α → Activity σ β}
    {other : β → Nat → σ → Prop}
    (keeps : activity.Keeps safe goal now state)
    (onwards : ∀ result later reached, goal result later reached →
      (continuation result).Keeps safe other later reached) :
    (activity.bind continuation).Keeps safe other now state := by
  induction activity generalizing now state with
  | done result => exact onwards result now state keeps
  | step effect next inductionHypothesis =>
    rcases keeps with ⟨safely, following⟩
    exact ⟨safely, inductionHypothesis _ _ following⟩
  | wait alarm next inductionHypothesis => exact inductionHypothesis keeps
  | hang => trivial

theorem Keeps.mono
    {activity : Activity σ α}
    {other : α → Nat → σ → Prop}
    (keeps : activity.Keeps safe goal now state)
    (weaker : ∀ result later reached, goal result later reached → other result later reached) :
    activity.Keeps safe other now state := by
  rw [← bind_done activity]
  exact keeps.bind weaker

/-- An activity on the first component is safe as long as the second one is as it was. -/
theorem keeps_focus_first
    {ρ : Type}
    {activity : Activity σ α}
    {safe : σ × ρ → Prop}
    {rest : ρ}
    (safely : ∀ inner, safe (inner, rest)) :
    (activity.focus (Part.first σ ρ)).Keeps safe
      (fun result later whole => whole.2 = rest ∧
        activity.run now state = some (result, later, whole.1)) now (state, rest) := by
  induction activity generalizing now state with
  | done result => exact ⟨rfl, rfl⟩
  | step effect next inductionHypothesis => exact ⟨safely _, inductionHypothesis _ _⟩
  | wait alarm next inductionHypothesis => exact inductionHypothesis
  | hang => trivial

/-- Whoever finishes has reached the goal. -/
theorem Keeps.goal_of_run
    {activity : Activity σ α}
    (keeps : activity.Keeps safe goal now state)
    {result : α}
    {later : Nat}
    {reached : σ}
    (finished : activity.run now state = some (result, later, reached)) :
    goal result later reached := by
  induction activity generalizing now state with
  | done value =>
    cases finished
    exact keeps
  | step effect next inductionHypothesis => exact inductionHypothesis _ _ keeps.2 finished
  | wait alarm next inductionHypothesis => exact inductionHypothesis keeps finished
  | hang => cases finished

/-- Wherever an activity is cut off, the state is safe. -/
theorem Keeps.safe_of_run_before
    {activity : Activity σ α}
    (keeps : activity.Keeps safe goal now state)
    (initially : safe state)
    {deadline : Nat}
    {answer : Option α}
    {later : Nat}
    {reached : σ}
    (cut : (activity.before deadline).run now state = some (answer, later, reached)) :
    safe reached := by
  induction activity generalizing now state with
  | done value =>
    cases cut
    exact initially
  | step effect next inductionHypothesis => exact inductionHypothesis _ _ keeps.2 keeps.1 cut
  | wait alarm next inductionHypothesis =>
    by_cases early : alarm.instant ≤ deadline
    · rw [before, if_pos early] at cut
      exact inductionHypothesis keeps initially cut
    · rw [before, if_neg early] at cut
      cases cut
      exact initially
  | hang =>
    cases cut
    exact initially

/-! ## Activities that end -/

/-- Whenever and in whatever state it starts, the activity by itself ends. -/
def Ends (activity : Activity σ α) : Prop :=
  ∀ now state, ∃ ending, activity.run now state = some ending

theorem ends_done (result : α) : (done result : Activity σ α).Ends := by
  intro now state
  exact ⟨_, rfl⟩

/-- A sequence ends when its first part does and whatever may follow does. -/
theorem Ends.bind
    {activity : Activity σ α}
    {continuation : α → Activity σ β}
    (ends : activity.Ends)
    (onwards : ∀ result, (continuation result).Ends) :
    (activity.bind continuation).Ends := by
  intro now state
  rcases ends now state with ⟨⟨result, later, reached⟩, finished⟩
  rcases onwards result later reached with ⟨ending, final⟩
  refine ⟨ending, ?_⟩
  rw [run_bind, finished]
  exact final

/-- Only its first part keeps a sequence from ending when whatever follows ends. -/
theorem run_bind_eq_none_iff
    {activity : Activity σ α}
    {continuation : α → Activity σ β}
    (onwards : ∀ result, (continuation result).Ends)
    {now : Nat}
    {state : σ} :
    (activity.bind continuation).run now state = none ↔ activity.run now state = none := by
  rw [run_bind]
  cases activity.run now state with
  | none => simp
  | some ending =>
    obtain ⟨result, later, reached⟩ := ending
    obtain ⟨last, finished⟩ := onwards result later reached
    simp [finished]

theorem Ends.focus_first
    {ρ : Type}
    {activity : Activity σ α}
    (ends : activity.Ends) :
    (activity.focus (Part.first σ ρ)).Ends := by
  rintro now ⟨state, rest⟩
  obtain ⟨ending, finished⟩ := ends now state
  exact ⟨_, by rw [run_focus_first, finished]; rfl⟩

end Fleet.Activity
