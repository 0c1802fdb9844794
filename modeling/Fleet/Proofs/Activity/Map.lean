import Fleet.Activity.Deadline
import Fleet.Activity.Gathered

/-!
# Activities and functions of their results

A function of the result changes nothing about what an activity does. It therefore moves freely
through sequences, deadlines and groups, and what a group keeps of its members can be forgotten
before or after the group runs.
-/

namespace Fleet.Activity

variable {σ ε α β γ δ : Type}

@[simp]
theorem map_done
    (function : α → β)
    (result : α) :
    function <$> (done result : Activity σ α) = done (function result) :=
  rfl

@[simp]
theorem map_step
    (function : α → β)
    (effect : Nat → σ → σ)
    (next : Nat → σ → Activity σ α) :
    function <$> step effect next = step effect fun now state => function <$> next now state :=
  rfl

@[simp]
theorem map_wait
    (function : α → β)
    (alarm : Alarm)
    (next : Activity σ α) :
    function <$> wait alarm next = wait alarm (function <$> next) :=
  rfl

@[simp]
theorem map_hang (function : α → β) : function <$> (hang : Activity σ α) = hang :=
  rfl

theorem map_bind
    (function : β → γ)
    (activity : Activity σ α)
    (continuation : α → Activity σ β) :
    function <$> activity.bind continuation =
      activity.bind fun result => function <$> continuation result :=
  bind_assoc activity continuation _

theorem bind_map
    (function : α → β)
    (activity : Activity σ α)
    (continuation : β → Activity σ γ) :
    (function <$> activity).bind continuation =
      activity.bind fun result => continuation (function result) :=
  bind_assoc activity _ continuation

theorem run_map
    (function : α → β)
    (activity : Activity σ α)
    (now : Nat)
    (state : σ) :
    (function <$> activity).run now state =
      (activity.run now state).map fun ending => (function ending.1, ending.2) := by
  have mapped : function <$> activity = activity.bind fun result => .done (function result) := rfl
  rw [mapped, run_bind, Option.map_eq_bind]
  rfl

theorem before_map
    (function : α → β)
    (activity : Activity σ α)
    (deadline : Nat) :
    (function <$> activity).before deadline = Option.map function <$> activity.before deadline := by
  induction activity with
  | done result => rfl
  | step effect next inductionHypothesis => simp [before, inductionHypothesis]
  | wait alarm next inductionHypothesis =>
    simp only [map_wait, before, inductionHypothesis]
    split <;> rfl
  | hang => rfl

theorem limited_map
    (function : α → β)
    (activity : Activity σ α)
    (budget : Nat) :
    (function <$> activity).limited budget = Option.map function <$> activity.limited budget := by
  simp [limited, before_map]

/-! ## Groups -/

/-- A function of the result is applied wherever the two sides end. -/
theorem map_besideSleeper
    (function : γ → δ)
    (alarm : Alarm)
    (resume : Activity σ β → Activity σ γ)
    (leftOnly : β → Activity σ γ)
    (stalled : Activity σ γ)
    (right : Activity σ β) :
    function <$> besideSleeper alarm resume leftOnly stalled right =
      besideSleeper alarm (fun remaining => function <$> resume remaining)
        (fun other => function <$> leftOnly other) (function <$> stalled) right := by
  induction right with
  | done other => rfl
  | step effect next inductionHypothesis => simp [besideSleeper, inductionHypothesis]
  | wait other next inductionHypothesis =>
    simp only [besideSleeper, ← inductionHypothesis]
    split <;> rfl
  | hang => rfl

/-- A function of the right side's result is applied wherever this result is used. -/
theorem besideSleeper_map
    (function : α → β)
    (alarm : Alarm)
    (resume : Activity σ β → Activity σ γ)
    (leftOnly : β → Activity σ γ)
    (stalled : Activity σ γ)
    (right : Activity σ α) :
    besideSleeper alarm resume leftOnly stalled (function <$> right) =
      besideSleeper alarm (fun remaining => resume (function <$> remaining))
        (fun other => leftOnly (function other)) stalled right := by
  induction right with
  | done other => rfl
  | step effect next inductionHypothesis => simp [besideSleeper, inductionHypothesis]
  | wait other next inductionHypothesis => simp [besideSleeper, inductionHypothesis]
  | hang => rfl

/-- Functions of the two results are applied to the pair of them. -/
theorem together_map
    (first : α → γ)
    (second : β → δ)
    (left : Activity σ α)
    (right : Activity σ β) :
    (first <$> left).together (second <$> right) =
      Prod.map first second <$> left.together right := by
  induction left generalizing right with
  | done result => simp [bind_map, map_bind]
  | step effect next inductionHypothesis => simp [together, inductionHypothesis]
  | wait alarm next inductionHypothesis =>
    simp only [map_wait, together, map_besideSleeper, besideSleeper_map, inductionHypothesis,
      bind_map, map_bind, map_done, map_hang, Prod.map_apply]
  | hang => simp [together, bind_map, map_bind]

theorem onlyError_mapError
    (function : ε → δ)
    (activity : Activity σ (Except ε α)) :
    (onlyError (Except.mapError function <$> activity) : Activity σ (Except δ β)) =
      Except.mapError function <$> onlyError activity := by
  simp only [onlyError, bind_map, map_bind]
  congr 1
  funext result
  cases result <;> rfl

/-- Errors may be renamed before or after the first of them ends a fallible pair. -/
theorem bothOrError_mapError
    (function : ε → δ)
    (left : Activity σ (Except ε α))
    (right : Activity σ (Except ε β)) :
    (Except.mapError function <$> left).bothOrError (Except.mapError function <$> right) =
      Except.mapError function <$> left.bothOrError right := by
  induction left generalizing right with
  | done result =>
    cases result with
    | error failure => rfl
    | ok value =>
      show (Except.mapError function <$> right).bind _ = Except.mapError function <$> right.bind _
      rw [bind_map, map_bind]
      congr 1
      funext other
      cases other <;> rfl
  | step effect next inductionHypothesis => simp [bothOrError, inductionHypothesis]
  | wait alarm next inductionHypothesis =>
    simp only [map_wait, bothOrError, besideFallible, map_besideSleeper, besideSleeper_map,
      inductionHypothesis, onlyError_mapError, bind_map]
    congr 1
    funext other
    cases other with
    | error failure => rfl
    | ok value =>
      show wait alarm _ = wait alarm (Except.mapError function <$> next.bind _)
      rw [map_bind]
      congr 2
      funext result
      cases result <;> rfl
  | hang => simp only [map_hang, bothOrError, onlyError_mapError]

theorem all_map
    (function : α → β)
    (activities : List (Activity σ α)) :
    all (activities.map (function <$> ·)) = List.map function <$> all activities := by
  induction activities with
  | nil => rfl
  | cons activity rest inductionHypothesis =>
    simp [all, inductionHypothesis, together_map, bind_map, map_bind]

theorem numbered_map
    (function : α → β)
    (activity : Activity σ α) :
    (function <$> activity).numbered = function <$> activity.numbered := by
  induction activity with
  | done result => rfl
  | step effect next inductionHypothesis => simp [numbered, inductionHypothesis]
  | wait alarm next inductionHypothesis =>
    simp only [map_wait, map_step, numbered, inductionHypothesis]
    congr 1
    funext now whole
    split <;> rfl
  | hang => rfl

theorem unnumbered_map
    (function : α → β)
    (activity : Activity (σ × Nat) α)
    (number : Nat) :
    (function <$> activity).unnumbered number = function <$> activity.unnumbered number := by
  induction activity generalizing number with
  | done result => rfl
  | step effect next inductionHypothesis => simp [unnumbered, inductionHypothesis]
  | wait alarm next inductionHypothesis => simp [unnumbered, inductionHypothesis]
  | hang => rfl

/-- A group whose members forget something is the group that forgets it of all of them. -/
theorem gathered_map
    (function : α → β)
    (activities : List (Activity σ α)) :
    gathered (activities.map (function <$> ·)) = List.map function <$> gathered activities := by
  have queued_map :
      queued (activities.map (function <$> ·)) = List.map function <$> queued activities := by
    simp only [queued, ← unnumbered_map, ← all_map, List.map_map]
    congr 3
    funext activity
    exact numbered_map function activity
  simp only [gathered, List.length_map]
  split
  · exact all_map function activities
  · exact queued_map

end Fleet.Activity
