import Fleet.Activity.Deadline

/-!
# Activities on a part of the state

An activity on a part of a larger state is put together there as it is on the part alone, and cut
off at the same instant. When the larger state is a pair, the activity on its first component leaves
the second one alone and does otherwise what it does by itself.
-/

namespace Fleet

/-- A part that is put back unchanged leaves the whole unchanged. -/
structure Part.Exact {τ σ : Type} (part : Part τ σ) : Prop where
  update_view : ∀ whole, part.update (part.view whole) whole = whole

namespace Activity

variable {τ σ α β : Type}

section Sequences

variable (part : Part τ σ)

theorem focus_bind
    (activity : Activity σ α)
    (continuation : α → Activity σ β) :
    (activity.bind continuation).focus part =
      (activity.focus part).bind fun result => (continuation result).focus part := by
  induction activity with
  | done result => rfl
  | step effect next inductionHypothesis => simp [bind, focus, inductionHypothesis]
  | wait alarm next inductionHypothesis => simp [bind, focus, inductionHypothesis]
  | hang => rfl

theorem focus_before
    (activity : Activity σ α)
    (deadline : Nat) :
    (activity.focus part).before deadline = (activity.before deadline).focus part := by
  induction activity with
  | done result => rfl
  | step effect next inductionHypothesis => simp [before, focus, inductionHypothesis]
  | wait alarm next inductionHypothesis =>
    simp only [before, focus]
    split
    · rw [inductionHypothesis, focus]
    · rfl
  | hang => rfl

end Sequences

section Exact

variable {part : Part τ σ} (exact : part.Exact)

include exact

theorem focus_currentInstant : currentInstant.focus part = currentInstant := by
  simp [currentInstant, observe, focus, exact.update_view]

theorem focus_sleep (duration : Nat) : (sleep duration).focus part = sleep duration := by
  simp only [sleep, focus, exact.update_view]
  congr 1
  funext now whole
  split <;> rfl

theorem focus_limited
    (activity : Activity σ α)
    (budget : Nat) :
    (activity.focus part).limited budget = (activity.limited budget).focus part := by
  simp only [limited, focus, exact.update_view, focus_before]

end Exact

/-! ## The first component of a pair -/

section First

variable {ρ γ δ : Type}

theorem exact_first (σ ρ : Type) : (Part.first σ ρ).Exact :=
  ⟨fun _ => rfl⟩

/-- An activity on the first component does there what it does by itself. -/
theorem run_focus_first
    (activity : Activity σ α)
    (now : Nat)
    (state : σ)
    (rest : ρ) :
    (activity.focus (Part.first σ ρ)).run now (state, rest) =
      (activity.run now state).map fun (result, later, reached) =>
        (result, later, reached, rest) := by
  induction activity generalizing now state with
  | done result => rfl
  | step effect next inductionHypothesis => exact inductionHypothesis _ _ _ _
  | wait alarm next inductionHypothesis => exact inductionHypothesis _ _
  | hang => rfl

/-- Without the second component, and with part of the result forgotten, an activity does what
another one does on the first component alone. -/
def Shadows (activity : Activity (σ × ρ) γ) (plain : Activity σ α) (forget : γ → α) :
    Prop :=
  ∀ now state rest,
    (activity.run now (state, rest)).map (fun (result, later, reached) =>
      (forget result, later, reached.1)) = plain.run now state

namespace Shadows

theorem done
    {result : γ}
    {value : α}
    {forget : γ → α}
    (same : forget result = value) :
    Shadows (done result : Activity (σ × ρ) γ) (done value : Activity σ α) forget := by
  intro now state rest
  simp [same]

/-- A sequence forgets what its parts forget. -/
theorem bind
    {first : Activity (σ × ρ) γ}
    {plain : Activity σ α}
    {forget : γ → α}
    {next : γ → Activity (σ × ρ) δ}
    {continuation : α → Activity σ β}
    {discard : δ → β}
    (early : Shadows first plain forget)
    (late : ∀ result, Shadows (next result) (continuation (forget result)) discard) :
    Shadows (first.bind next) (plain.bind continuation) discard := by
  intro now state rest
  rw [run_bind, run_bind, ← early now state rest]
  cases finished : first.run now (state, rest) with
  | none => rfl
  | some ending =>
    rcases ending with ⟨result, later, reached, kept⟩
    exact late result later reached kept

end Shadows

end First

end Activity

end Fleet
