import Fleet.Proofs.Activity.Moment

/-!
# Members of a group

Activities side by side take turns, and each meets some of the moments of the whole in their order.
So a group that finishes has one result for each member, which the member reaches by itself along
moments of the group: no member can lose, repeat or change the result of another one.
-/

namespace Fleet.Activity

variable {σ α β γ : Type}

/-- The activity reaches a result along some of the moments. -/
def Reaches (activity : Activity σ α) (moments : List (Moment σ)) (result : α) : Prop :=
  ∃ part, part.Sublist moments ∧ activity.along part = some result

theorem Reaches.mono
    {activity : Activity σ α}
    {few many : List (Moment σ)}
    {result : α}
    (reaches : activity.Reaches few result)
    (contained : few.Sublist many) :
    activity.Reaches many result := by
  obtain ⟨part, inside, followed⟩ := reaches
  exact ⟨part, inside.trans contained, followed⟩

theorem Reaches.wait_iff
    (alarm : Alarm)
    (next : Activity σ α)
    (moments : List (Moment σ))
    (result : α) :
    (wait alarm next).Reaches moments result ↔ next.Reaches moments result := by
  simp only [Reaches, along_wait]

/-- A step that meets the first moment. -/
theorem Reaches.step
    {effect : Nat → σ → σ}
    {next : Nat → σ → Activity σ α}
    {moment : Moment σ}
    {rest : List (Moment σ)}
    {result : α}
    (reaches : (next moment.instant moment.state).Reaches rest result) :
    (step effect next).Reaches (moment :: rest) result := by
  obtain ⟨part, inside, followed⟩ := reaches
  exact ⟨moment :: part, inside.cons_cons moment, followed⟩

theorem Reaches.of_along
    {activity : Activity σ α}
    {moments : List (Moment σ)}
    {result : α}
    (followed : activity.along moments = some result) :
    activity.Reaches moments result :=
  ⟨moments, List.Sublist.refl moments, followed⟩

theorem Reaches.done
    (result : α)
    (moments : List (Moment σ)) :
    (Activity.done result).Reaches moments result :=
  ⟨[], List.nil_sublist moments, by simp⟩

/-- Both activities reach their part of a pair. -/
def ReachBoth
    (left : Activity σ α)
    (right : Activity σ β)
    (moments : List (Moment σ))
    (pair : α × β) :
    Prop :=
  left.Reaches moments pair.1 ∧ right.Reaches moments pair.2

/-- When the right side is finished, the left side goes on as before. -/
theorem reachBoth_of_along_bind
    {left : Activity σ α}
    {other : β}
    {moments : List (Moment σ)}
    {pair : α × β}
    (followed : (left.bind fun result => done (result, other)).along moments = some pair) :
    ReachBoth left (done other) moments pair := by
  obtain ⟨early, late, result, rfl, reached, ended⟩ := (along_bind_iff _ _ _ _).1 followed
  obtain ⟨rfl, rfl⟩ := (along_done_iff _ _ _).1 ended
  exact ⟨(Reaches.of_along reached).mono (List.sublist_append_left early []),
    Reaches.done other _⟩

theorem not_along_bind_hang
    (activity : Activity σ α)
    (moments : List (Moment σ))
    (value : β) :
    (activity.bind fun _ => (hang : Activity σ β)).along moments ≠ some value := by
  intro followed
  obtain ⟨_, late, _, _, _, stuck⟩ := (along_bind_iff _ _ _ _).1 followed
  simp at stuck

/-- While the left side sleeps, the right side goes on by itself. The left side stays as it is until
its alarm. -/
theorem reachBoth_of_along_besideSleeper
    {alarm : Alarm}
    {next : Activity σ α}
    {resume : Activity σ β → Activity σ (α × β)}
    {leftOnly : β → Activity σ (α × β)}
    {stalled : Activity σ (α × β)}
    (resumed : ∀ remaining moments pair, (resume remaining).along moments = some pair →
      ReachBoth next remaining moments pair)
    (alone : ∀ other moments pair, (leftOnly other).along moments = some pair →
      ReachBoth next (done other) moments pair)
    (stuck : ∀ moments pair, stalled.along moments ≠ some pair)
    (right : Activity σ β)
    {moments : List (Moment σ)}
    {pair : α × β}
    (followed : (besideSleeper alarm resume leftOnly stalled right).along moments = some pair) :
    ReachBoth next right moments pair := by
  induction right generalizing moments with
  | done other => exact alone other moments pair followed
  | step effect rest inductionHypothesis =>
    rw [besideSleeper, along_step_iff] at followed
    obtain ⟨moment, later, rfl, followed⟩ := followed
    obtain ⟨left, right⟩ := inductionHypothesis _ _ followed
    exact ⟨left.mono (List.sublist_cons_self moment later), right.step⟩
  | wait other rest inductionHypothesis =>
    rw [besideSleeper] at followed
    split at followed
    · rw [along_wait] at followed
      exact resumed _ moments pair followed
    · rw [along_wait] at followed
      obtain ⟨left, right⟩ := inductionHypothesis followed
      exact ⟨left, (Reaches.wait_iff _ _ _ _).2 right⟩
  | hang => exact absurd followed (stuck moments pair)

/-- Of two activities side by side, each reaches its part of the result. -/
theorem reachBoth_of_along_together
    {left : Activity σ α}
    {right : Activity σ β}
    {moments : List (Moment σ)}
    {pair : α × β}
    (followed : (left.together right).along moments = some pair) :
    ReachBoth left right moments pair := by
  induction left generalizing right moments pair with
  | done result =>
    rw [together_done] at followed
    obtain ⟨early, late, other, rfl, reached, ended⟩ := (along_bind_iff _ _ _ _).1 followed
    obtain ⟨rfl, rfl⟩ := (along_done_iff _ _ _).1 ended
    exact ⟨Reaches.done result _,
      (Reaches.of_along reached).mono (List.sublist_append_left early [])⟩
  | step effect next inductionHypothesis =>
    rw [together, along_step_iff] at followed
    obtain ⟨moment, later, rfl, followed⟩ := followed
    obtain ⟨left, right⟩ := inductionHypothesis _ _ followed
    exact ⟨left.step, right.mono (List.sublist_cons_self moment later)⟩
  | wait alarm next inductionHypothesis =>
    have both : ReachBoth next right moments pair := by
      apply reachBoth_of_along_besideSleeper _ _ _ right followed
      · intro remaining moments pair resumed
        exact inductionHypothesis resumed
      · intro other moments pair alone
        rw [along_wait] at alone
        exact reachBoth_of_along_bind alone
      · intro moments pair
        rw [along_wait]
        exact not_along_bind_hang next moments pair
    exact ⟨(Reaches.wait_iff _ _ _ _).2 both.1, both.2⟩
  | hang => exact absurd followed (not_along_bind_hang right moments pair)

/-- Every member reaches its result along some of the moments. -/
def AllReach
    (activities : List (Activity σ α))
    (moments : List (Moment σ))
    (results : List α) :
    Prop :=
  List.Forall₂ (fun activity result => activity.Reaches moments result) activities results

/-- Every result of a group stands at the place of the member that reaches it. -/
theorem AllReach.exists_of_mem
    {sources : List β}
    {start : β → Activity σ α}
    {moments : List (Moment σ)}
    {results : List α}
    (reached : AllReach (sources.map start) moments results)
    {result : α}
    (member : result ∈ results) :
    ∃ source, (source, result) ∈ sources.zip results ∧
      (start source).Reaches moments result := by
  have each := List.forall₂_map_left_iff.1 reached
  clear reached
  induction each with
  | nil => cases member
  | cons reaches _ inductionHypothesis =>
    rcases List.mem_cons.1 member with rfl | later
    · exact ⟨_, List.mem_cons_self, reaches⟩
    · rcases inductionHypothesis later with ⟨source, place, reaches⟩
      exact ⟨source, List.mem_cons_of_mem _ place, reaches⟩

/-- Of activities side by side, each reaches its part of the results. -/
theorem allReach_of_along_all
    {activities : List (Activity σ α)}
    {moments : List (Moment σ)}
    {results : List α}
    (followed : (all activities).along moments = some results) :
    AllReach activities moments results := by
  induction activities generalizing moments results with
  | nil =>
    obtain ⟨rfl, rfl⟩ := (along_done_iff _ _ _).1 followed
    exact List.Forall₂.nil
  | cons activity rest inductionHypothesis =>
    rw [all] at followed
    obtain ⟨early, late, pair, rfl, reached, ended⟩ := (along_bind_iff _ _ _ _).1 followed
    obtain ⟨rfl, rfl⟩ := (along_done_iff _ _ _).1 ended
    obtain ⟨first, others, inside, along⟩ := reachBoth_of_along_together reached
    have contained : early.Sublist (early ++ []) := List.sublist_append_left early []
    refine List.Forall₂.cons (first.mono contained) ?_
    refine (inductionHypothesis along).imp fun _ _ reaches => ?_
    exact reaches.mono (inside.trans contained)

/-- A moment without the counter of alarms. -/
def withoutCounter (moment : Moment (σ × Nat)) : Moment σ :=
  ⟨moment.instant, moment.state.1⟩

/-- Forgetting the counter leaves the moments as they are otherwise. -/
theorem exists_along_of_along_unnumbered
    {activity : Activity (σ × Nat) α}
    {number : Nat}
    {moments : List (Moment σ)}
    {result : α}
    (followed : (activity.unnumbered number).along moments = some result) :
    ∃ counted, counted.map withoutCounter = moments ∧ activity.along counted = some result := by
  induction activity generalizing number moments with
  | done value =>
    obtain ⟨rfl, rfl⟩ := (along_done_iff _ _ _).1 followed
    exact ⟨[], rfl, by simp⟩
  | step effect next inductionHypothesis =>
    rw [unnumbered, along_step_iff] at followed
    obtain ⟨moment, rest, rfl, followed⟩ := followed
    obtain ⟨counted, rfl, along⟩ := inductionHypothesis _ _ followed
    exact ⟨⟨moment.instant, moment.state, number⟩ :: counted, rfl, along⟩
  | wait alarm next inductionHypothesis =>
    rw [unnumbered, along_wait] at followed
    simpa only [along_wait] using inductionHypothesis followed
  | hang => simp [unnumbered] at followed

/-- Numbering alarms only adds steps that an activity does not look at. -/
theorem reaches_of_along_numbered
    {activity : Activity σ α}
    {counted : List (Moment (σ × Nat))}
    {result : α}
    (followed : activity.numbered.along counted = some result) :
    activity.Reaches (counted.map withoutCounter) result := by
  induction activity generalizing counted with
  | done value =>
    obtain ⟨rfl, rfl⟩ := (along_done_iff _ _ _).1 followed
    exact Reaches.done result _
  | step effect next inductionHypothesis =>
    rw [numbered, along_step_iff] at followed
    obtain ⟨moment, rest, rfl, followed⟩ := followed
    have reaches :
        (next (withoutCounter moment).instant (withoutCounter moment).state).Reaches
          (rest.map withoutCounter) result :=
      inductionHypothesis _ _ followed
    exact reaches.step
  | wait alarm next inductionHypothesis =>
    rw [numbered, along_step_iff] at followed
    obtain ⟨moment, rest, rfl, followed⟩ := followed
    rw [Reaches.wait_iff]
    have resumed : next.numbered.along rest = some result := by
      split at followed
      · exact followed
      · rwa [along_wait] at followed
    exact (inductionHypothesis resumed).mono (List.sublist_cons_self _ _)
  | hang => simp [numbered] at followed

theorem allReach_of_along_queued
    {activities : List (Activity σ α)}
    {moments : List (Moment σ)}
    {results : List α}
    (followed : (queued activities).along moments = some results) :
    AllReach activities moments results := by
  obtain ⟨counted, rfl, along⟩ := exists_along_of_along_unnumbered followed
  refine (List.forall₂_map_left_iff.1 (allReach_of_along_all along)).imp ?_
  rintro activity result ⟨part, inside, reached⟩
  exact (reaches_of_along_numbered reached).mono (inside.map withoutCounter)

/-- The members of a group that finishes reach their results. -/
theorem allReach_of_along_gathered
    {activities : List (Activity σ α)}
    {moments : List (Moment σ)}
    {results : List α}
    (followed : (gathered activities).along moments = some results) :
    AllReach activities moments results := by
  rw [gathered] at followed
  split at followed
  · exact allReach_of_along_all followed
  · exact allReach_of_along_queued followed

/-- The members of a group that runs to its end reach their results along the moments of the run. -/
theorem allReach_of_run_gathered
    {activities : List (Activity σ α)}
    {now later : Nat}
    {state reached : σ}
    {results : List α}
    (finished : (gathered activities).run now state = some (results, later, reached)) :
    AllReach activities ((gathered activities).moments now state) results :=
  allReach_of_along_gathered (along_moments finished)

/-- The results of a group meet the goal that each member meets whatever happens. -/
theorem Yields.of_run_gathered
    {activities : List (Activity σ α)}
    {goal : α → Prop}
    (yields : ∀ activity ∈ activities, activity.Yields goal)
    {now later : Nat}
    {state reached : σ}
    {results : List α}
    (finished : (gathered activities).run now state = some (results, later, reached)) :
    ∀ result ∈ results, goal result := by
  intro result member
  have reached := allReach_of_run_gathered finished
  rw [← List.map_id activities] at reached
  rcases reached.exists_of_mem member with ⟨activity, place, part, _, followed⟩
  exact (yields activity (List.of_mem_zip place).1).of_along followed

end Fleet.Activity
