import Fleet.Activity.Gathered

/-!
# Groups that take no time

Actions side by side that take no time are done in the order of their list, whatever the size of
the group: each acts on the state that the ones before it have left.
-/

namespace Fleet

/-- What is put in a part of a whole is found there. -/
structure Part.Lawful {τ σ : Type} (part : Part τ σ) : Prop where
  view_update : ∀ inner whole, part.view (part.update inner whole) = inner

/-- A state as a part of itself. -/
def Part.self (σ : Type) : Part σ σ where
  view state := state
  update inner _ := inner

theorem Part.lawful_self (σ : Type) : (Part.self σ).Lawful :=
  ⟨fun _ _ => rfl⟩

namespace Activity

variable {σ α : Type}

/-- The results and the state after actions that are done one after the other at one instant. -/
def inTurn : List (Nat → σ → α × σ) → Nat → σ → List α × σ
  | [], _, state => ([], state)
  | action :: rest, now, state =>
    let (result, middle) := action now state
    let (results, reached) := inTurn rest now middle
    (result :: results, reached)

/-- An action on the state beside a counter, which it leaves alone. -/
def counting (action : Nat → σ → α × σ) (now : Nat) (whole : σ × Nat) : α × σ × Nat :=
  ((action now whole.1).1, (action now whole.1).2, whole.2)

theorem inTurn_counting
    (actions : List (Nat → σ → α × σ))
    (now : Nat)
    (whole : σ × Nat) :
    inTurn (actions.map counting) now whole =
      ((inTurn actions now whole.1).1, (inTurn actions now whole.1).2, whole.2) := by
  induction actions generalizing whole with
  | nil => rfl
  | cons action rest inductionHypothesis =>
    simp only [List.map_cons, inTurn, inductionHypothesis, counting]

theorem run_all_perform
    (actions : List (Nat → σ → α × σ))
    (now : Nat)
    (state : σ) :
    (all (actions.map perform)).run now state =
      some ((inTurn actions now state).1, now, (inTurn actions now state).2) := by
  induction actions generalizing state with
  | nil => rfl
  | cons action rest inductionHypothesis =>
    have others := inductionHypothesis (action now state).2
    simp only [List.map_cons, all, perform, together, bind, run, run_bind] at others ⊢
    rw [others]
    rfl

/-- Forgetting the counter changes nothing about a run. -/
theorem run_unnumbered
    (activity : Activity (σ × Nat) α)
    (number now : Nat)
    (state : σ) :
    (activity.unnumbered number).run now state =
      (activity.run now (state, number)).map fun (result, later, reached) =>
        (result, later, reached.1) := by
  induction activity generalizing number now state with
  | done result => rfl
  | step effect next inductionHypothesis => exact inductionHypothesis _ _ _ _ _
  | wait alarm next inductionHypothesis => exact inductionHypothesis _ _ _
  | hang => rfl

/-- Actions in a group are done in turn, and no time passes. -/
theorem run_gathered_perform
    (actions : List (Nat → σ → α × σ))
    (now : Nat)
    (state : σ) :
    (gathered (actions.map perform)).run now state =
      some ((inTurn actions now state).1, now, (inTurn actions now state).2) := by
  rw [gathered]
  split
  · exact run_all_perform actions now state
  · have numbered : (actions.map perform).map Activity.numbered =
        (actions.map counting).map perform := by
      simp only [List.map_map]
      rfl
    rw [queued, run_unnumbered, numbered, run_all_perform, inTurn_counting]
    rfl

end Activity

end Fleet
