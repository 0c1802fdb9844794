import Fleet.Activity.Together

/-!
# Groups of activities

A small group of activities is looked after in the order of its list whenever one of its alarms
rings. A large group keeps a queue instead: alarms that ring at one instant are served in the order
in which they were set. To this end every alarm of a large group takes the next number as its place,
and the numbers are forgotten again when the group is seen from outside.
-/

namespace Fleet.Activity

variable {σ α : Type}

/-- The activity over a state with a counter of alarms, from which each alarm takes its place. An
alarm that has rung already is not set. -/
def numbered : Activity σ α → Activity (σ × Nat) α
  | done result => done result
  | step effect next =>
    step (fun now whole => (effect now whole.1, whole.2)) fun now whole =>
      (next now whole.1).numbered
  | wait alarm next =>
    step (fun _ whole => (whole.1, whole.2 + 1)) fun now whole =>
      if alarm.instant ≤ now then next.numbered
      else wait ⟨alarm.instant, whole.2⟩ next.numbered
  | hang => hang

/-- The activity without the counter, which stands at a number, and without the places of alarms. -/
def unnumbered : Activity (σ × Nat) α → Nat → Activity σ α
  | done result, _ => done result
  | step effect next, number =>
    step (fun now state => (effect now (state, number)).1) fun now state =>
      (next now (state, number)).unnumbered (effect now (state, number)).2
  | wait alarm next, number => wait ⟨alarm.instant, 0⟩ (next.unnumbered number)
  | hang, _ => hang

/-- A list of activities side by side whose alarms of one instant ring in the order in which they
were set; it finishes with the results in the order of the list. -/
def queued (activities : List (Activity σ α)) : Activity σ (List α) :=
  (all (activities.map numbered)).unnumbered 0

/-- The size up to which a group is small. -/
def smallGroup : Nat := 30

/-- A group of activities side by side; it finishes with the results in the order of the list. -/
def gathered (activities : List (Activity σ α)) : Activity σ (List α) :=
  if activities.length ≤ smallGroup then all activities else queued activities

@[simp]
theorem gathered_nil : gathered ([] : List (Activity σ α)) = done [] := rfl

end Fleet.Activity
