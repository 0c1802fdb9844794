import Fleet.Activity.Gathered
import Fleet.Proofs.Activity.Focus

/-!
# Activities that do the same in a larger world

A world may hold more than an activity knows of, say a record of what it does. An activity echoes a
plain one when it does the same to what the plain one knows, at the same instants and with the same
pauses; in between it may act on the rest of the world.

Sequences of such activities echo sequences of the plain ones, and so do groups: a member keeps its
turn until it pauses, so that an action more or less before the pause does not change the order in
which the members of a group act.
-/

namespace Fleet.Activity

variable {σ τ α β γ δ ι : Type}

/-- The activity does what a plain one does, when what the plain one does not know of the world and
of the result is erased. -/
inductive Echoes (erase : τ → σ) (forget : γ → α) :
    Activity τ γ → Activity σ α → Prop where
  | done {result : γ} {value : α} (same : forget result = value) :
    Echoes erase forget (done result) (done value)
  /-- An action on the rest of the world. -/
  | aside {effect : Nat → τ → τ} {next : Nat → τ → Activity τ γ}
      {plain : Activity σ α}
      (spares : ∀ now whole, erase (effect now whole) = erase whole)
      (onwards : ∀ now whole, Echoes erase forget (next now whole) plain) :
    Echoes erase forget (step effect next) plain
  | act {effect : Nat → τ → τ} {next : Nat → τ → Activity τ γ}
      {change : Nat → σ → σ}
      {following : Nat → σ → Activity σ α}
      (acts : ∀ now whole, erase (effect now whole) = change now (erase whole))
      (onwards : ∀ now whole, Echoes erase forget (next now whole)
        (following now (erase whole))) :
    Echoes erase forget (step effect next) (step change following)
  | wait {alarm : Alarm} {next : Activity τ γ} {following : Activity σ α}
      (onwards : Echoes erase forget next following) :
    Echoes erase forget (wait alarm next) (wait alarm following)
  | hang : Echoes erase forget hang hang

namespace Echoes

variable {erase : τ → σ} {forget : γ → α} {activity : Activity τ γ}
  {plain : Activity σ α}

/-- Nothing but what is erased tells the run from that of the plain activity. -/
theorem run
    (echoes : Echoes erase forget activity plain)
    (now : Nat)
    (whole : τ) :
    (activity.run now whole).map (fun (result, later, reached) =>
      (forget result, later, erase reached)) = plain.run now (erase whole) := by
  induction echoes generalizing now whole with
  | done same => simp [same]
  | aside spares _ inductionHypothesis =>
    rw [Activity.run, inductionHypothesis, spares]
  | act acts _ inductionHypothesis =>
    rw [Activity.run, inductionHypothesis, acts]
    rfl
  | wait _ inductionHypothesis => exact inductionHypothesis _ whole
  | hang => rfl

theorem shadows
    {ρ : Type}
    {activity : Activity (σ × ρ) γ}
    (echoes : Echoes Prod.fst forget activity plain) :
    Shadows activity plain forget :=
  fun now state rest => echoes.run now (state, rest)

theorem focus
    {ρ : Type}
    (activity : Activity σ α) :
    Echoes Prod.fst id (activity.focus (Part.first σ ρ)) activity := by
  induction activity with
  | done result => exact .done rfl
  | step effect next inductionHypothesis =>
    exact .act (fun _ _ => rfl) fun now whole => inductionHypothesis now whole.1
  | wait alarm next inductionHypothesis => exact .wait inductionHypothesis
  | hang => exact .hang

theorem sleep (duration : Nat) :
    Echoes erase id (Activity.sleep duration) (Activity.sleep duration) := by
  refine .act (fun _ _ => rfl) fun now whole => ?_
  split
  · exact .done rfl
  · exact .wait (.done rfl)

/-- A sequence echoes another one when its halves do. -/
theorem bind
    {discard : δ → β}
    {next : γ → Activity τ δ}
    {continuation : α → Activity σ β}
    (early : Echoes erase forget activity plain)
    (late : ∀ result, Echoes erase discard (next result) (continuation (forget result))) :
    Echoes erase discard (activity.bind next) (plain.bind continuation) := by
  induction early with
  | @done result value same =>
    rw [← same]
    exact late result
  | aside spares _ inductionHypothesis => exact .aside spares inductionHypothesis
  | act acts _ inductionHypothesis => exact .act acts inductionHypothesis
  | wait _ inductionHypothesis => exact .wait inductionHypothesis
  | hang => exact .hang

/-! ## Groups -/

section Beside

variable {discard : δ → β} {right : Activity τ δ} {other : Activity σ β}

/-- While the left side sleeps, the right side goes on as the plain one does. -/
theorem besideSleeper
    {κ ν : Type}
    {lose : κ → ν}
    {alarm : Alarm}
    {resume : Activity τ δ → Activity τ κ}
    {plainResume : Activity σ β → Activity σ ν}
    {leftOnly : δ → Activity τ κ}
    {plainLeftOnly : β → Activity σ ν}
    {stalled : Activity τ κ}
    {plainStalled : Activity σ ν}
    (resumes : ∀ right other, Echoes erase discard right other →
      Echoes erase lose (resume right) (plainResume other))
    (alone : ∀ result, Echoes erase lose (leftOnly result) (plainLeftOnly (discard result)))
    (stalls : Echoes erase lose stalled plainStalled)
    (echoes : Echoes erase discard right other) :
    Echoes erase lose (Activity.besideSleeper alarm resume leftOnly stalled right)
      (Activity.besideSleeper alarm plainResume plainLeftOnly plainStalled other) := by
  induction echoes with
  | @done result value same =>
    rw [← same]
    exact alone result
  | aside spares _ inductionHypothesis => exact .aside spares inductionHypothesis
  | act acts _ inductionHypothesis => exact .act acts inductionHypothesis
  | wait onwards inductionHypothesis =>
    rw [Activity.besideSleeper, Activity.besideSleeper]
    split
    · exact .wait (resumes _ _ (.wait onwards))
    · exact .wait inductionHypothesis
  | hang => exact stalls

/-- Two activities side by side echo two others when each of them does. -/
theorem together
    (left : Echoes erase forget activity plain)
    (echoes : Echoes erase discard right other) :
    Echoes erase (Prod.map forget discard) (activity.together right) (plain.together other) := by
  induction left generalizing right other with
  | done same =>
    rw [together_done, together_done]
    exact echoes.bind fun result => .done (congrArg (·, discard result) same)
  | aside spares _ inductionHypothesis =>
    exact .aside spares fun now whole => inductionHypothesis now whole echoes
  | act acts _ inductionHypothesis =>
    exact .act acts fun now whole => inductionHypothesis now whole echoes
  | wait onwards inductionHypothesis =>
    refine besideSleeper (fun _ _ => inductionHypothesis) (fun result => ?_) ?_ echoes
    · exact .wait (onwards.bind fun _ => .done rfl)
    · exact .wait (onwards.bind fun _ => .hang)
  | hang => exact echoes.bind fun _ => .hang

end Beside

section Groups

variable {work : ι → Activity τ γ} {task : ι → Activity σ α}

theorem all
    (each : ∀ member, Echoes erase forget (work member) (task member))
    (members : List ι) :
    Echoes erase (List.map forget) (Activity.all (members.map work))
      (Activity.all (members.map task)) := by
  induction members with
  | nil => exact .done rfl
  | cons first rest inductionHypothesis =>
    exact ((each first).together inductionHypothesis).bind fun _ => .done rfl

/-- Activities go on echoing each other when their alarms are numbered. -/
theorem numbered (echoes : Echoes erase forget activity plain) :
    Echoes (Prod.map erase id) forget activity.numbered plain.numbered := by
  induction echoes with
  | done same => exact .done same
  | aside spares _ inductionHypothesis =>
    refine .aside (fun now whole => ?_) fun now whole => inductionHypothesis now whole.1
    exact congrArg (·, whole.2) (spares now whole.1)
  | act acts _ inductionHypothesis =>
    refine .act (fun now whole => ?_) fun now whole => inductionHypothesis now whole.1
    exact congrArg (·, whole.2) (acts now whole.1)
  | wait _ inductionHypothesis =>
    refine .act (fun _ _ => rfl) fun now whole => ?_
    split
    · exact inductionHypothesis
    · exact .wait inductionHypothesis
  | hang => exact .hang

/-- Activities with numbered alarms still echo each other when the numbers are forgotten. -/
theorem unnumbered
    {counted : Activity (τ × Nat) γ}
    {plainCounted : Activity (σ × Nat) α}
    (echoes : Echoes (Prod.map erase id) forget counted plainCounted)
    (number : Nat) :
    Echoes erase forget (counted.unnumbered number) (plainCounted.unnumbered number) := by
  induction echoes generalizing number with
  | done same => exact .done same
  | @aside effect next plain spares _ inductionHypothesis =>
    refine .aside (fun now whole => congrArg Prod.fst (spares now (whole, number)))
      fun now whole => ?_
    have kept : (effect now (whole, number)).2 = number :=
      congrArg Prod.snd (spares now (whole, number))
    rw [kept]
    exact inductionHypothesis now (whole, number) number
  | @act effect next change following acts _ inductionHypothesis =>
    refine .act (fun now whole => congrArg Prod.fst (acts now (whole, number)))
      fun now whole => ?_
    have counts : (effect now (whole, number)).2 = (change now (erase whole, number)).2 :=
      congrArg Prod.snd (acts now (whole, number))
    rw [counts]
    exact inductionHypothesis now (whole, number) _
  | wait _ inductionHypothesis => exact .wait (inductionHypothesis number)
  | hang => exact .hang

/-- A group echoes the group of the activities that its members echo. -/
theorem gathered
    (each : ∀ member, Echoes erase forget (work member) (task member))
    (members : List ι) :
    Echoes erase (List.map forget) (Activity.gathered (members.map work))
      (Activity.gathered (members.map task)) := by
  rw [Activity.gathered, Activity.gathered, List.length_map, List.length_map]
  split
  · exact all each members
  · rw [queued, queued, List.map_map, List.map_map]
    exact unnumbered (all (fun member => (each member).numbered) members) 0

end Groups

end Echoes

end Fleet.Activity
