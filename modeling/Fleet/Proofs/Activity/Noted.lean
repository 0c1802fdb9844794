import Fleet.Proofs.Activity.Conduct
import Fleet.Proofs.Activity.Focus
import Fleet.Proofs.Activity.Group

/-!
# What an activity has noted so far

When the world has a record to which activities append, an activity that has met some moments has
noted something, and it is finished by then, or it acts next, or it is stuck. `noted` is what it has
appended itself, whatever others have appended in the meantime, together with how it stands. So it
tells of every activity at every point on its way, also of one that is never finished.

A sequence has noted what its first part has, and what its second part has if that has begun. A
group has noted what its members have, each along a part of the moments, and it is not stuck before
all its members are finished or stuck.
-/

namespace Fleet

variable {σ ε α β γ : Type}

/-- A moment without what lies beside the state. -/
def Moment.inner {ρ : Type} (moment : Moment (σ × ρ)) : Moment σ :=
  ⟨moment.instant, moment.state.1⟩

namespace Activity

/-- Why an activity has no result yet. -/
inductive Delay where
  /-- It goes on with whatever moment comes next. -/
  | pending
  /-- It meets no moment any more. -/
  | stuck

/-- How an activity stands. -/
inductive Status (α : Type) where
  | ended (result : α)
  | delayed (delay : Delay)

namespace Status

/-- The status with a function of the result. -/
def map (function : α → β) : Status α → Status β
  | ended result => ended (function result)
  | delayed delay => delayed delay

end Status

/-- How an activity stands when it has met these moments and no others. -/
def status : Activity σ α → List (Moment σ) → Option (Status α)
  | done result, [] => some (.ended result)
  | done _, _ :: _ => none
  | step _ _, [] => some (.delayed .pending)
  | step _ next, moment :: rest => (next moment.instant moment.state).status rest
  | wait _ next, path => next.status path
  | hang, [] => some (.delayed .stuck)
  | hang, _ :: _ => none

/-- What an activity has appended to a record when it has met these moments and no others, and how
it stands by then. -/
def noted (record : σ → List ε) :
    Activity σ α → List (Moment σ) → Option (List ε × Status α)
  | done result, [] => some ([], .ended result)
  | done _, _ :: _ => none
  | step _ _, [] => some ([], .delayed .pending)
  | step effect next, moment :: rest =>
    ((next moment.instant moment.state).noted record rest).map fun (events, status) =>
      ((record (effect moment.instant moment.state)).drop (record moment.state).length ++ events,
        status)
  | wait _ next, path => next.noted record path
  | hang, [] => some ([], .delayed .stuck)
  | hang, _ :: _ => none

/-- How an activity stands before its first step. -/
def start : Activity σ α → Status α
  | done result => .ended result
  | step _ _ => .delayed .pending
  | wait _ next => next.start
  | hang => .delayed .stuck

theorem status_wait
    (alarm : Alarm)
    (next : Activity σ α)
    (path : List (Moment σ)) :
    (wait alarm next).status path = next.status path := by
  cases path <;> rfl

/-- An activity has ended along a path exactly when the path leads to its result. -/
theorem status_eq_ended_iff
    {activity : Activity σ α}
    {path : List (Moment σ)}
    {result : α} :
    activity.status path = some (.ended result) ↔ activity.along path = some result := by
  induction activity generalizing path with
  | done value => cases path <;> simp [status, along]
  | step effect next inductionHypothesis =>
    cases path with
    | nil => simp [status]
    | cons moment rest => exact inductionHypothesis _ _
  | wait alarm next inductionHypothesis =>
    rw [status_wait, along_wait]
    exact inductionHypothesis
  | hang => cases path <;> simp [status]

variable {record : σ → List ε} {path : List (Moment σ)} {events : List ε}

theorem noted_done_iff
    {result : α}
    {status : Status α} :
    (done result : Activity σ α).noted record path = some (events, status) ↔
      path = [] ∧ events = [] ∧ status = .ended result := by
  cases path <;> simp [noted, eq_comm]

theorem noted_step_nil_iff
    {effect : Nat → σ → σ}
    {next : Nat → σ → Activity σ α}
    {status : Status α} :
    (step effect next).noted record [] = some (events, status) ↔
      events = [] ∧ status = .delayed .pending := by
  simp [noted, eq_comm]

/-- The first step notes what it adds to the record, and the rest goes on from there. -/
theorem noted_step_cons_iff
    {effect : Nat → σ → σ}
    {next : Nat → σ → Activity σ α}
    {moment : Moment σ}
    {status : Status α} :
    (step effect next).noted record (moment :: path) = some (events, status) ↔
      ∃ later, (next moment.instant moment.state).noted record path = some (later, status) ∧
        events = (record (effect moment.instant moment.state)).drop (record moment.state).length ++
          later := by
  simp only [noted, Option.map_eq_some_iff, Prod.exists, Prod.mk.injEq]
  constructor
  · rintro ⟨later, _, told, rfl, rfl⟩
    exact ⟨later, told, rfl⟩
  · rintro ⟨later, told, rfl⟩
    exact ⟨later, status, told, rfl, rfl⟩

theorem noted_wait
    (alarm : Alarm)
    (next : Activity σ α) :
    (wait alarm next).noted record path = next.noted record path := by
  cases path <;> rfl

theorem noted_hang_iff {status : Status α} :
    (hang : Activity σ α).noted record path = some (events, status) ↔
      path = [] ∧ events = [] ∧ status = .delayed .stuck := by
  cases path <;> simp [noted, eq_comm]

/-- Before its first step an activity has noted nothing. -/
theorem noted_nil
    (record : σ → List ε)
    (activity : Activity σ α) :
    activity.noted record [] = some ([], activity.start) := by
  induction activity with
  | done result => rfl
  | step effect next => rfl
  | wait alarm next inductionHypothesis => exact inductionHypothesis
  | hang => rfl

/-- A sequence is still in its first part, or it has noted what both of its parts have. -/
theorem noted_bind
    {first : Activity σ α}
    {next : α → Activity σ β}
    {status : Status β}
    (told : (first.bind next).noted record path = some (events, status)) :
    (∃ delay, first.noted record path = some (events, .delayed delay) ∧
        status = .delayed delay) ∨
      ∃ early late mine theirs result, path = early ++ late ∧ events = mine ++ theirs ∧
        first.noted record early = some (mine, .ended result) ∧
        (next result).noted record late = some (theirs, status) := by
  induction first generalizing path events with
  | done result => exact .inr ⟨[], path, [], events, result, rfl, rfl, rfl, told⟩
  | step effect rest inductionHypothesis =>
    cases path with
    | nil =>
      obtain ⟨rfl, rfl⟩ := noted_step_nil_iff.1 told
      exact .inl ⟨.pending, rfl, rfl⟩
    | cons moment path =>
      obtain ⟨later, following, rfl⟩ := noted_step_cons_iff.1 told
      rcases inductionHypothesis _ _ following with
        ⟨delay, underway, rfl⟩ |
        ⟨early, late, mine, theirs, result, rfl, rfl, done, onwards⟩
      · exact .inl ⟨delay, noted_step_cons_iff.2 ⟨later, underway, rfl⟩, rfl⟩
      · exact .inr ⟨moment :: early, late, _, theirs, result, rfl,
          (List.append_assoc _ _ _).symm,
          noted_step_cons_iff.2 ⟨mine, done, rfl⟩, onwards⟩
  | wait alarm rest inductionHypothesis =>
    rw [bind, noted_wait] at told
    simpa only [noted_wait] using inductionHypothesis told
  | hang =>
    obtain ⟨rfl, rfl, rfl⟩ := noted_hang_iff.1 told
    exact .inl ⟨.stuck, rfl, rfl⟩

/-- What only completes a result notes nothing. -/
theorem noted_bind_done
    {first : Activity σ α}
    {next : α → Activity σ β}
    {status : Status β}
    (told : (first.bind next).noted record path = some (events, status))
    (finish : α → β)
    (ends : ∀ result, next result = done (finish result)) :
    ∃ own, first.noted record path = some (events, own) ∧ status = own.map finish := by
  rcases noted_bind told with
    ⟨delay, underway, rfl⟩ | ⟨early, late, mine, theirs, result, rfl, rfl, finished, ended⟩
  · exact ⟨.delayed delay, underway, rfl⟩
  · rw [ends] at ended
    obtain ⟨rfl, rfl, rfl⟩ := noted_done_iff.1 ended
    rw [List.append_nil, List.append_nil]
    exact ⟨.ended result, finished, rfl⟩

/-- A pause takes one step and notes nothing. -/
theorem noted_sleep_bind
    {duration : Nat}
    {next : Unit → Activity σ α}
    {status : Status α}
    (told : ((sleep duration).bind next).noted record path = some (events, status)) :
    (path = [] ∧ events = [] ∧ status = .delayed .pending) ∨
      ∃ moment rest, path = moment :: rest ∧
        (next ()).noted record rest = some (events, status) := by
  rw [sleep, bind] at told
  cases path with
  | nil =>
    obtain ⟨rfl, rfl⟩ := noted_step_nil_iff.1 told
    exact .inl ⟨rfl, rfl, rfl⟩
  | cons moment rest =>
    obtain ⟨later, following, rfl⟩ := noted_step_cons_iff.1 told
    refine .inr ⟨moment, rest, rfl, ?_⟩
    rw [List.drop_length, List.nil_append]
    by_cases immediate : Clock.wake moment.instant duration ≤ moment.instant
    · rwa [if_pos immediate] at following
    · rwa [if_neg immediate, bind, noted_wait] at following

/-! ## Parts of the world beside the record -/

section Beside

variable {whole : List (Moment (σ × List ε))}

/-- An activity that works beside a record notes nothing, and it stands as the work does. -/
theorem noted_focus_first
    {activity : Activity σ α}
    {status : Status α}
    (told : (activity.focus (Part.first σ (List ε))).noted Prod.snd whole =
      some (events, status)) :
    events = [] ∧ activity.status (whole.map Moment.inner) = some status := by
  induction activity generalizing whole events with
  | done result =>
    obtain ⟨rfl, rfl, rfl⟩ := noted_done_iff.1 told
    exact ⟨rfl, rfl⟩
  | step effect next inductionHypothesis =>
    cases whole with
    | nil =>
      obtain ⟨rfl, rfl⟩ := noted_step_nil_iff.1 told
      exact ⟨rfl, rfl⟩
    | cons moment whole =>
      obtain ⟨later, following, rfl⟩ := noted_step_cons_iff.1 told
      obtain ⟨rfl, same⟩ := inductionHypothesis _ _ following
      refine ⟨?_, same⟩
      show moment.state.2.drop moment.state.2.length ++ [] = []
      rw [List.append_nil, List.drop_length]
  | wait alarm next inductionHypothesis =>
    rw [focus, noted_wait] at told
    rw [status_wait]
    exact inductionHypothesis told
  | hang =>
    obtain ⟨rfl, rfl, rfl⟩ := noted_hang_iff.1 told
    exact ⟨rfl, rfl⟩

/-- Work beside a record that comes before something else: it is not finished and nothing has been
noted, or what has been noted has been noted since it was finished. -/
theorem noted_focus_first_bind
    {activity : Activity σ α}
    {next : α → Activity (σ × List ε) β}
    {status : Status β}
    (told : ((activity.focus (Part.first σ (List ε))).bind next).noted Prod.snd whole =
      some (events, status)) :
    (∃ delay, events = [] ∧ status = .delayed delay ∧
        activity.status (whole.map Moment.inner) = some (.delayed delay)) ∨
      ∃ early late result, whole = early ++ late ∧
        activity.along (early.map Moment.inner) = some result ∧
        (next result).noted Prod.snd late = some (events, status) := by
  rcases noted_bind told with
    ⟨delay, underway, rfl⟩ |
    ⟨early, late, mine, theirs, result, rfl, rfl, finished, onwards⟩
  · obtain ⟨rfl, stands⟩ := noted_focus_first underway
    exact .inl ⟨delay, rfl, rfl, stands⟩
  · obtain ⟨rfl, stands⟩ := noted_focus_first finished
    exact .inr ⟨early, late, result, rfl, status_eq_ended_iff.1 stands, onwards⟩

end Beside

/-! ## What may be noted -/

/-- Whatever an activity meets, all that it notes fits, and so does its result. -/
def Utters (record : σ → List ε) (fits : ε → Prop) (goal : α → Prop) :
    Activity σ α → Prop
  | done result => goal result
  | step effect next => ∀ now state,
    (∀ event ∈ (record (effect now state)).drop (record state).length, fits event) ∧
      (next now state).Utters record fits goal
  | wait _ next => next.Utters record fits goal
  | hang => True

section Utters

variable {fits : ε → Prop} {goal : α → Prop} {activity : Activity σ α}

/-- All that a sequence notes fits when all that its halves note does. -/
theorem Utters.bind
    {other : β → Prop}
    {next : α → Activity σ β}
    (utters : activity.Utters record fits goal)
    (onwards : ∀ result, goal result → (next result).Utters record fits other) :
    (activity.bind next).Utters record fits other := by
  induction activity with
  | done result => exact onwards result utters
  | step effect rest inductionHypothesis =>
    intro now state
    obtain ⟨fitting, later⟩ := utters now state
    exact ⟨fitting, inductionHypothesis now state later⟩
  | wait alarm rest inductionHypothesis => exact inductionHypothesis utters
  | hang => trivial

/-- What has been noted fits, and so does the result if there is one. -/
theorem Utters.of_noted
    (utters : activity.Utters record fits goal)
    {status : Status α}
    (told : activity.noted record path = some (events, status)) :
    (∀ event ∈ events, fits event) ∧ ∀ result, status = .ended result → goal result := by
  induction activity generalizing path events with
  | done result =>
    obtain ⟨-, rfl, rfl⟩ := noted_done_iff.1 told
    exact ⟨by simp, fun _ same => Status.ended.inj same ▸ utters⟩
  | step effect next inductionHypothesis =>
    cases path with
    | nil =>
      obtain ⟨rfl, rfl⟩ := noted_step_nil_iff.1 told
      exact ⟨by simp, fun _ finished => by cases finished⟩
    | cons moment path =>
      obtain ⟨later, following, rfl⟩ := noted_step_cons_iff.1 told
      obtain ⟨mine, onwards⟩ := utters moment.instant moment.state
      obtain ⟨theirs, finished⟩ := inductionHypothesis _ _ onwards following
      exact ⟨fun event among => (List.mem_append.1 among).elim (mine event) (theirs event),
        finished⟩
  | wait alarm next inductionHypothesis =>
    rw [noted_wait] at told
    exact inductionHypothesis utters told
  | hang =>
    obtain ⟨-, rfl, rfl⟩ := noted_hang_iff.1 told
    exact ⟨by simp, fun _ finished => by cases finished⟩

/-- Work beside a record notes nothing at all. -/
theorem utters_focus_first
    (fits : ε → Prop)
    (activity : Activity σ α) :
    (activity.focus (Part.first σ (List ε))).Utters Prod.snd fits fun _ => True := by
  induction activity with
  | done result => trivial
  | step effect next inductionHypothesis =>
    refine fun now whole => ⟨fun event among => ?_, inductionHypothesis now whole.1⟩
    change event ∈ whole.2.drop whole.2.length at among
    rw [List.drop_length] at among
    cases among
  | wait alarm next inductionHypothesis => exact inductionHypothesis
  | hang => trivial

end Utters

/-! ## Groups -/

/-- Along a part of a path an activity has noted something, and it stands so. -/
def Tells
    (record : σ → List ε)
    (path : List (Moment σ))
    (activity : Activity σ α)
    (telling : List ε × Status α) :
    Prop :=
  ∃ part, part.Sublist path ∧ activity.noted record part = some telling

/-- What the members of a group have noted, each along a part of a path, and how they stand.
Together it is what is on record. -/
structure Share (record : σ → List ε) (members : List (Activity σ α))
    (path : List (Moment σ))
    (events : List ε) (tellings : List (List ε × Status α)) : Prop where
  each : List.Forall₂ (Tells record path) members tellings
  together : events.Perm (tellings.flatMap Prod.fst)

/-- A group stands as its members do: when it is finished so are they, with the results that can be
read from its own, and when it is stuck none of them can go on. -/
structure Follows (read : γ → List α) (status : Status γ) (members : List (Status α)) :
    Prop where
  ended : ∀ result, status = .ended result → members = (read result).map .ended
  stuck : status = .delayed .stuck → .delayed .pending ∉ members

theorem follows_pending
    (read : γ → List α)
    (members : List (Status α)) :
    Follows read (.delayed .pending) members where
  ended _ same := by cases same
  stuck same := by cases same

theorem Ended.start_ne_pending
    {activity : Activity σ α}
    (ended : activity.Ended) :
    activity.start ≠ .delayed .pending := by
  cases activity with
  | done result => simp [start]
  | step effect next => exact ended.elim
  | wait alarm next => exact ended.elim
  | hang => simp [start]

theorem Tells.step
    {effect : Nat → σ → σ}
    {next : Nat → σ → Activity σ α}
    {moment : Moment σ}
    {telling : List ε × Status α}
    (tells : Tells record path (next moment.instant moment.state) telling) :
    Tells record (moment :: path) (step effect next)
      ((record (effect moment.instant moment.state)).drop (record moment.state).length ++ telling.1,
        telling.2) := by
  obtain ⟨part, inside, told⟩ := tells
  exact ⟨moment :: part, inside.cons_cons moment,
    noted_step_cons_iff.2 ⟨telling.1, told, rfl⟩⟩

theorem Tells.mono
    {activity : Activity σ α}
    {telling : List ε × Status α}
    {wider : List (Moment σ)}
    (tells : Tells record path activity telling)
    (contained : path.Sublist wider) :
    Tells record wider activity telling := by
  obtain ⟨part, inside, told⟩ := tells
  exact ⟨part, inside.trans contained, told⟩

/-- A list related to another one that differs at a place is related to it when the place is made
up for. -/
theorem exists_forall₂_of_set
    {relation wider : α → β → Prop}
    (amend : β → β)
    (widens : ∀ element value, relation element value → wider element value)
    {position : Nat}
    {list : List α}
    {old new : α}
    {values : List β}
    (place : list[position]? = some old)
    (each : List.Forall₂ relation (list.set position new) values)
    (amends : ∀ value, relation new value → wider old (amend value)) :
    ∃ before value after, values = before ++ value :: after ∧
      List.Forall₂ wider list (before ++ amend value :: after) := by
  induction list generalizing position values with
  | nil => cases place
  | cons first rest inductionHypothesis =>
    cases position with
    | zero =>
      cases place
      cases each with
      | cons related others =>
        exact ⟨[], _, _, rfl, .cons (amends _ related) (others.imp widens)⟩
    | succ position =>
      cases each with
      | cons related others =>
        obtain ⟨before, value, after, rfl, amended⟩ := inductionHypothesis place others
        exact ⟨_ :: before, value, after, rfl, .cons (widens _ _ related) amended⟩

theorem share_nil
    (record : σ → List ε)
    (members : List (Activity σ α)) :
    Share record members [] [] (members.map fun member => ([], member.start)) where
  each := by
    rw [List.forall₂_map_right_iff, List.forall₂_same]
    exact fun member _ => ⟨[], List.Sublist.refl [], noted_nil record member⟩
  together := by simp [List.flatMap_map]

/-- What conducts a group notes what the members note, and stands as they do. -/
theorem Conducts.share
    {read : γ → List α}
    {group : Activity σ γ}
    {members : List (Activity σ α)}
    (conducts : group.Conducts read members)
    {status : Status γ}
    (told : group.noted record path = some (events, status)) :
    ∃ tellings, Share record members path events tellings ∧
      Follows read status (tellings.map Prod.snd) := by
  induction group generalizing members path events with
  | done result =>
    obtain ⟨rfl, rfl, rfl⟩ := noted_done_iff.1 told
    obtain rfl : members = _ := conducts
    refine ⟨_, share_nil record _, ?_, fun same => by cases same⟩
    rintro _ ⟨⟩
    rw [List.map_map, List.map_map]
    rfl
  | step effect next inductionHypothesis =>
    obtain ⟨position, following, acts, each⟩ := conducts
    cases path with
    | nil =>
      obtain ⟨rfl, rfl⟩ := noted_step_nil_iff.1 told
      exact ⟨_, share_nil record members, follows_pending read _⟩
    | cons moment path =>
      obtain ⟨later, onwards, rfl⟩ := noted_step_cons_iff.1 told
      obtain ⟨tellings, share, follows⟩ :=
        inductionHypothesis _ _ (each moment.instant moment.state) onwards
      obtain ⟨before, telling, after, rfl, amended⟩ :=
        exists_forall₂_of_set _ (fun _ _ tells => tells.mono (List.sublist_cons_self moment path))
          acts share.each fun _ tells => tells.step
      refine ⟨_, ⟨amended, ?_⟩, ?_⟩
      · refine (share.together.append_left _).trans ?_
        simp only [List.flatMap_append, List.flatMap_cons, List.append_assoc]
        exact List.perm_append_comm_assoc _ _ _
      · rw [List.map_append, List.map_cons] at follows ⊢
        exact follows
  | wait alarm next inductionHypothesis =>
    obtain ⟨position, following, sleeps, -, conducts⟩ := conducts
    rw [noted_wait] at told
    obtain ⟨tellings, share, follows⟩ := inductionHypothesis conducts told
    obtain ⟨before, telling, after, rfl, each⟩ :=
      exists_forall₂_of_set id (fun _ _ => id) sleeps share.each fun _ => id
    exact ⟨_, ⟨each, share.together⟩, follows⟩
  | hang =>
    obtain ⟨rfl, rfl, rfl⟩ := noted_hang_iff.1 told
    refine ⟨_, share_nil record members, fun _ same => (by cases same), fun _ pending => ?_⟩
    rw [List.map_map] at pending
    obtain ⟨member, inMembers, stands⟩ := List.mem_map.1 pending
    exact (conducts.2 member inMembers).start_ne_pending stands

/-- What an activity notes without a counter of alarms, it notes with one as well. -/
theorem noted_unnumbered
    {activity : Activity (σ × Nat) α}
    {number : Nat}
    {status : Status α}
    (told : (activity.unnumbered number).noted record path = some (events, status)) :
    ∃ counted : List (Moment (σ × Nat)), counted.map Moment.inner = path ∧
      activity.noted (record ∘ Prod.fst) counted = some (events, status) := by
  induction activity generalizing number path events with
  | done result =>
    obtain ⟨rfl, rfl, rfl⟩ := noted_done_iff.1 told
    exact ⟨[], rfl, rfl⟩
  | step effect next inductionHypothesis =>
    cases path with
    | nil =>
      obtain ⟨rfl, rfl⟩ := noted_step_nil_iff.1 told
      exact ⟨[], rfl, rfl⟩
    | cons moment path =>
      obtain ⟨later, following, rfl⟩ := noted_step_cons_iff.1 told
      obtain ⟨counted, rfl, counts⟩ := inductionHypothesis _ _ following
      exact ⟨⟨moment.instant, moment.state, number⟩ :: counted, rfl,
        noted_step_cons_iff.2 ⟨later, counts, rfl⟩⟩
  | wait alarm next inductionHypothesis =>
    rw [unnumbered, noted_wait] at told
    simpa only [noted_wait] using inductionHypothesis told
  | hang =>
    obtain ⟨rfl, rfl, rfl⟩ := noted_hang_iff.1 told
    exact ⟨[], rfl, rfl⟩

/-- What has been noted is the same, and unless it could go on there, it stands in the same way. -/
structure Further (telling further : List ε × Status α) : Prop where
  events : further.1 = telling.1
  stands : telling.2 ≠ .delayed .pending → further.2 = telling.2

/-- Numbering its alarms adds steps to an activity that note nothing. Before such a step the
activity itself may be further. -/
theorem exists_tells_of_noted_numbered
    {activity : Activity σ α}
    {counted : List (Moment (σ × Nat))}
    {telling : List ε × Status α}
    (told : activity.numbered.noted (record ∘ Prod.fst) counted = some telling) :
    ∃ further, Tells record (counted.map Moment.inner) activity further ∧
      Further telling further := by
  obtain ⟨events, status⟩ := telling
  induction activity generalizing counted events with
  | done result =>
    obtain ⟨rfl, rfl, rfl⟩ := noted_done_iff.1 told
    exact ⟨_, ⟨[], List.Sublist.refl [], rfl⟩, rfl, fun _ => rfl⟩
  | step effect next inductionHypothesis =>
    cases counted with
    | nil =>
      obtain ⟨rfl, rfl⟩ := noted_step_nil_iff.1 told
      exact ⟨_, ⟨[], List.Sublist.refl [], rfl⟩, rfl, fun _ => rfl⟩
    | cons moment counted =>
      obtain ⟨later, following, rfl⟩ := noted_step_cons_iff.1 told
      obtain ⟨⟨_, ending⟩, tells, rfl, stands⟩ := inductionHypothesis _ _ later following
      have stepped : Tells record (moment.inner :: counted.map Moment.inner) (step effect next) _ :=
        tells.step
      exact ⟨_, stepped, rfl, stands⟩
  | wait alarm next inductionHypothesis =>
    cases counted with
    | nil =>
      obtain ⟨rfl, rfl⟩ := noted_step_nil_iff.1 told
      exact ⟨_, ⟨[], List.Sublist.refl [], noted_nil record _⟩, rfl,
        fun set => absurd rfl set⟩
    | cons moment counted =>
      obtain ⟨later, following, rfl⟩ := noted_step_cons_iff.1 told
      have resumed : next.numbered.noted (record ∘ Prod.fst) counted = some (later, status) := by
        split at following
        · exact following
        · rwa [noted_wait] at following
      obtain ⟨further, ⟨part, inside, tells⟩, same, stands⟩ :=
        inductionHypothesis later resumed
      refine ⟨further, ⟨part, inside.cons _, ?_⟩, ?_, stands⟩
      · rw [noted_wait, tells]
      · show further.1 = (record moment.state.1).drop (record moment.state.1).length ++ later
        rw [same, List.drop_length, List.nil_append]
  | hang =>
    obtain ⟨rfl, rfl, rfl⟩ := noted_hang_iff.1 told
    exact ⟨_, ⟨[], List.Sublist.refl [], rfl⟩, rfl, fun _ => rfl⟩

/-- What members with numbered alarms have noted, they have noted without the numbers, where they
stand in the same way or further on. -/
theorem exists_further
    {members : List (Activity σ α)}
    {counted : List (Moment (σ × Nat))}
    {tellings : List (List ε × Status α)}
    (each : List.Forall₂ (fun member telling =>
      Tells (record ∘ Prod.fst) counted member.numbered telling) members tellings) :
    ∃ further, List.Forall₂ (Tells record (counted.map Moment.inner)) members further ∧
      List.Forall₂ Further tellings further := by
  induction each with
  | nil => exact ⟨[], .nil, .nil⟩
  | cons tells _ inductionHypothesis =>
    obtain ⟨further, others, beside⟩ := inductionHypothesis
    obtain ⟨part, inside, told⟩ := tells
    obtain ⟨first, tells, follows⟩ := exists_tells_of_noted_numbered told
    exact ⟨first :: further, .cons (tells.mono (inside.map Moment.inner)) others,
      .cons follows beside⟩

theorem flatMap_eq_of_further
    {tellings further : List (List ε × Status α)}
    (beside : List.Forall₂ Further tellings further) :
    further.flatMap Prod.fst = tellings.flatMap Prod.fst := by
  induction beside with
  | nil => rfl
  | cons same _ inductionHypothesis =>
    rw [List.flatMap_cons, List.flatMap_cons, same.events, inductionHypothesis]

theorem map_eq_of_further
    {tellings further : List (List ε × Status α)}
    (beside : List.Forall₂ Further tellings further)
    (settled : .delayed .pending ∉ tellings.map Prod.snd) :
    further.map Prod.snd = tellings.map Prod.snd := by
  induction beside with
  | nil => rfl
  | cons same _ inductionHypothesis =>
    rw [List.map_cons, List.mem_cons, not_or] at settled
    rw [List.map_cons, List.map_cons, same.stands (Ne.symm settled.1),
      inductionHypothesis settled.2]

/-- A group still stands as its members do when some of these stand further on. -/
theorem Follows.further
    {read : γ → List α}
    {status : Status γ}
    {tellings further : List (List ε × Status α)}
    (follows : Follows read status (tellings.map Prod.snd))
    (beside : List.Forall₂ Further tellings further) :
    Follows read status (further.map Prod.snd) where
  ended result finished := by
    have ended := follows.ended result finished
    rw [map_eq_of_further beside, ended]
    rw [ended]
    simp
  stuck same := by
    rw [map_eq_of_further beside (follows.stuck same)]
    exact follows.stuck same

/-- A group has noted what its members have, and stands as they do. -/
theorem share_of_noted_gathered
    {members : List (Activity σ α)}
    {status : Status (List α)}
    (told : (gathered members).noted record path = some (events, status)) :
    ∃ tellings, Share record members path events tellings ∧
      Follows id status (tellings.map Prod.snd) := by
  rw [gathered] at told
  split at told
  · exact (conducts_all members).share told
  · obtain ⟨counted, rfl, counts⟩ := noted_unnumbered told
    obtain ⟨tellings, share, follows⟩ := (conducts_all _).share counts
    obtain ⟨further, each, beside⟩ := exists_further (List.forall₂_map_left_iff.1 share.each)
    refine ⟨further, ⟨each, ?_⟩, follows.further beside⟩
    rw [flatMap_eq_of_further beside]
    exact share.together

end Activity

end Fleet
