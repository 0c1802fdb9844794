import Fleet.Activity.Deadline
import Fleet.Proofs.Activity.Crew
import Fleet.Proofs.Activity.Focus
import Fleet.Proofs.Activity.Interference

/-!
# Activities that do not notice each other

An activity whose steps do the same, whatever others have done to the state in the meantime, comes
in a crew exactly as far as it would come alone, at the same instants. To compare the two runs, each
is followed on a state of its own: the run in the crew on the state that all share, the run alone on
a state that nobody else changes. The two states differ only by what others may do.

What an activity draws from a supply that all share is not the same in both runs. So the run alone
is handed what the run in the crew has drawn.
-/

namespace Fleet

/-- The contract of an activity that does nothing. -/
def Contract.idle {σ : Type} : Contract σ where
  rely _ _ := True
  guarantee before after := before = after
  rely_refl _ := trivial
  rely_trans _ _ _ _ _ := trivial
  guarantee_refl _ := rfl

theorem Contract.compatible_idle
    {σ : Type}
    (contract : Contract σ) :
    contract.Compatible Contract.idle where
  leftAllowed _ _ _ := trivial
  rightAllowed before _ same := same ▸ contract.rely_refl before

theorem Contract.Compatible.symm
    {σ : Type}
    {left right : Contract σ}
    (compatible : left.Compatible right) :
    right.Compatible left :=
  ⟨compatible.rightAllowed, compatible.leftAllowed⟩

namespace Activity

variable {σ α β κ : Type} {contract : Contract σ} {goal : α → Prop} {other : β → Prop}

/-- Each step does the same on two states that differ by what others may do, and no more than is
allowed; the result meets a goal. -/
def Separate (contract : Contract σ) (goal : α → Prop) : Activity σ α → Prop
  | done result => goal result
  | step effect next => ∀ now own shared, contract.rely own shared →
    contract.guarantee shared (effect now shared) ∧
    contract.rely (effect now own) (effect now shared) ∧
    next now own = next now shared ∧ (next now shared).Separate contract goal
  | wait _ next => next.Separate contract goal
  | hang => True

theorem separate_step_iff
    {effect : Nat → σ → σ}
    {next : Nat → σ → Activity σ α} :
    (step effect next).Separate contract goal ↔ ∀ now own shared, contract.rely own shared →
      contract.guarantee shared (effect now shared) ∧
      contract.rely (effect now own) (effect now shared) ∧
      next now own = next now shared ∧ (next now shared).Separate contract goal := Iff.rfl

namespace Separate

/-- A sequence keeps to itself when both of its halves do. -/
theorem bind
    {activity : Activity σ α}
    {continuation : α → Activity σ β}
    (separate : activity.Separate contract goal)
    (onwards : ∀ result, goal result → (continuation result).Separate contract other) :
    (activity.bind continuation).Separate contract other := by
  induction activity with
  | done result => exact onwards result separate
  | step effect next inductionHypothesis =>
    intro now own shared relied
    obtain ⟨guaranteed, still, same, following⟩ := separate now own shared relied
    exact ⟨guaranteed, still, congrArg (·.bind continuation) same,
      inductionHypothesis now shared following⟩
  | wait alarm next inductionHypothesis => exact inductionHypothesis separate
  | hang => trivial

/-- An activity keeps to itself also when a deadline cuts it off. -/
theorem before
    {activity : Activity σ α}
    (separate : activity.Separate contract goal)
    (deadline : Nat) :
    (activity.before deadline).Separate contract fun answer =>
      ∀ result ∈ answer, goal result := by
  induction activity with
  | done result =>
    rintro _ ⟨⟩
    exact separate
  | step effect next inductionHypothesis =>
    intro now own shared relied
    obtain ⟨guaranteed, still, same, following⟩ := separate now own shared relied
    exact ⟨guaranteed, still, congrArg (·.before deadline) same,
      inductionHypothesis now shared following⟩
  | wait alarm next inductionHypothesis =>
    rw [Activity.before]
    split
    · exact inductionHypothesis separate
    · simp [Separate]
  | hang => simp [Activity.before, Separate]

theorem limited
    {activity : Activity σ α}
    (separate : activity.Separate contract goal)
    (budget : Nat) :
    (activity.limited budget).Separate contract fun answer => ∀ result ∈ answer, goal result :=
  fun now _ shared relied =>
    ⟨contract.guarantee_refl shared, relied, rfl, separate.before (Clock.ring now budget)⟩

end Separate

theorem separate_currentInstant : currentInstant.Separate contract fun _ => True :=
  fun _ _ shared relied => ⟨contract.guarantee_refl shared, relied, rfl, trivial⟩

theorem separate_sleep (duration : Nat) : (sleep duration).Separate contract fun _ => True := by
  rw [sleep, separate_step_iff]
  intro now own shared relied
  refine ⟨contract.guarantee_refl shared, relied, rfl, ?_⟩
  split <;> trivial

/-- A second activity, over a state beside which stands what it is handed, does step by step what a
first one does, and is handed what the first one draws. -/
def Mirrors (contract : Contract σ) (goal : α → Prop) :
    Activity σ α → Activity (σ × List κ) α → Prop
  | done result, alone => alone = done result ∧ goal result
  | step effect next, alone => ∃ act follow, alone = step act follow ∧
    ∀ now own shared, contract.rely own shared →
      contract.guarantee shared (effect now shared) ∧
      ∃ drawn reached rest,
        (∀ more, act now (own, drawn ++ more) = (reached, more) ∧
          follow now (own, drawn ++ more) = rest) ∧
        contract.rely reached (effect now shared) ∧
        (next now shared).Mirrors contract goal rest
  | wait alarm next, alone => ∃ rest, alone = wait alarm rest ∧ next.Mirrors contract goal rest
  | hang, alone => alone = hang

/-- An activity that draws nothing is mirrored by itself. -/
theorem Separate.mirrors
    {activity : Activity σ α}
    (separate : activity.Separate contract goal) :
    activity.Mirrors contract goal (activity.focus (Part.first σ (List κ))) := by
  induction activity with
  | done result => exact ⟨rfl, separate⟩
  | step effect next inductionHypothesis =>
    refine ⟨_, _, rfl, fun now own shared relied => ?_⟩
    obtain ⟨guaranteed, still, same, following⟩ := separate now own shared relied
    refine ⟨guaranteed, [], effect now own, (next now own).focus (Part.first σ (List κ)),
      fun more => ⟨rfl, rfl⟩, still, ?_⟩
    rw [same]
    exact inductionHypothesis now shared following
  | wait alarm next inductionHypothesis => exact ⟨_, rfl, inductionHypothesis separate⟩
  | hang => rfl

/-- A sequence is mirrored by the sequence of the two mirrors. -/
theorem Mirrors.bind
    {activity : Activity σ α}
    {alone : Activity (σ × List κ) α}
    {continuation : α → Activity σ β}
    {following : α → Activity (σ × List κ) β}
    (mirrors : activity.Mirrors contract goal alone)
    (onwards : ∀ result, goal result →
      (continuation result).Mirrors contract other (following result)) :
    (activity.bind continuation).Mirrors contract other (alone.bind following) := by
  induction activity generalizing alone with
  | done result =>
    obtain ⟨rfl, met⟩ := mirrors
    exact onwards result met
  | step effect next inductionHypothesis =>
    obtain ⟨act, follow, rfl, each⟩ := mirrors
    refine ⟨act, fun now whole => (follow now whole).bind following, rfl,
      fun now own shared relied => ?_⟩
    obtain ⟨guaranteed, drawn, reached, rest, handed, still, mirrors⟩ :=
      each now own shared relied
    refine ⟨guaranteed, drawn, reached, rest.bind following, fun more => ?_, still,
      inductionHypothesis now shared mirrors⟩
    exact ⟨(handed more).1, congrArg (·.bind following) (handed more).2⟩
  | wait alarm next inductionHypothesis =>
    obtain ⟨rest, rfl, mirrors⟩ := mirrors
    exact ⟨rest.bind following, rfl, inductionHypothesis mirrors⟩
  | hang =>
    obtain rfl : alone = hang := mirrors
    rfl

/-- A run beside which nothing happens is the run alone that is handed what it draws. -/
theorem Mirrors.run
    {activity : Activity σ α}
    {alone : Activity (σ × List κ) α}
    (mirrors : activity.Mirrors contract goal alone)
    {now ended : Nat}
    {own shared reached : σ}
    {result : α}
    (relied : contract.rely own shared)
    (ran : activity.run now shared = some (result, ended, reached)) :
    ∃ handed left, contract.rely left reached ∧
      ∀ more, alone.run now (own, handed ++ more) = some (result, ended, left, more) := by
  induction activity generalizing alone now own shared with
  | done answer =>
    obtain ⟨rfl, -⟩ := mirrors
    cases ran
    exact ⟨[], own, relied, fun more => rfl⟩
  | step effect next inductionHypothesis =>
    obtain ⟨act, follow, rfl, each⟩ := mirrors
    obtain ⟨-, drawn, further, rest, given, still, mirrors⟩ := each now own shared relied
    obtain ⟨handed, left, allowed, followed⟩ := inductionHypothesis now shared mirrors still ran
    refine ⟨drawn ++ handed, left, allowed, fun more => ?_⟩
    obtain ⟨acted, onwards⟩ := given (handed ++ more)
    rw [List.append_assoc, Activity.run, acted, onwards, followed]
  | wait alarm next inductionHypothesis =>
    obtain ⟨rest, rfl, mirrors⟩ := mirrors
    exact inductionHypothesis mirrors relied ran
  | hang => cases ran

/-- What an activity may be left with at an instant, when it came to this point at one of its
own. -/
def OnTime (own now : Nat) : Activity σ α → Prop
  | done _ => own ≤ now
  | step _ _ => own = now
  | wait alarm _ => own ≤ now ∧ now ≤ max own alarm.instant
  | hang => own ≤ now

theorem onTime_self
    (activity : Activity σ α)
    (now : Nat) :
    activity.OnTime now now := by
  cases activity with
  | done result => exact Nat.le_refl now
  | step effect next => rfl
  | wait alarm next => exact ⟨Nat.le_refl now, Nat.le_max_left now alarm.instant⟩
  | hang => exact Nat.le_refl now

namespace OnTime

variable {activity : Activity σ α} {own now later : Nat}

theorem le (onTime : activity.OnTime own now) : own ≤ now := by
  cases activity with
  | done result => exact onTime
  | step effect next => exact Nat.le_of_eq onTime
  | wait alarm next => exact onTime.1
  | hang => exact onTime

/-- The clock may move on while there is nothing to do. -/
theorem delay
    (onTime : activity.OnTime own now)
    (onwards : now ≤ later)
    (idle : later = now ∨ activity.IdleUntil later) :
    activity.OnTime own later := by
  rcases idle with rfl | idle
  · exact onTime
  · cases activity with
    | done result => exact Nat.le_trans onTime onwards
    | step effect next => exact idle.elim
    | wait alarm next =>
      exact ⟨Nat.le_trans onTime.1 onwards,
        Nat.le_trans idle (Nat.le_max_right own alarm.instant)⟩
    | hang => exact Nat.le_trans onTime onwards

end OnTime

end Activity

/-- A member of a crew: its contract, and its run alone. -/
structure Lane (σ κ α : Type) where
  contract : Contract σ
  alone : Activity (σ × List κ) α

/-- How far a run alone has come. -/
structure Progress (σ κ α : Type) where
  /-- What it has been handed. -/
  handed : List κ
  /-- What is left of it. -/
  rest : Activity (σ × List κ) α
  instant : Nat
  state : σ

namespace Lane

variable {σ α κ : Type}

/-- A member of a crew has come as far as its run alone. -/
structure Tracks (lane : Lane σ κ α) (origin : Nat) (start : σ) (now : Nat) (shared : σ)
    (progress : Progress σ κ α) (member : Activity σ α) : Prop where
  mirrors : member.Mirrors lane.contract (fun _ => True) progress.rest
  relied : lane.contract.rely progress.state shared
  onTime : member.OnTime progress.instant now
  ran : ∀ more, lane.alone.run origin (start, progress.handed ++ more) =
    progress.rest.run progress.instant (progress.state, more)

/-- Alone and handed something, the run of a member ends with a result at an instant, and the state
in which it ends differs from another one only by what others may do. -/
def EndsAlone
    (origin : Nat)
    (start : σ)
    (lane : Lane σ κ α)
    (result : α)
    (ended : Nat)
    (reached : σ) :
    Prop :=
  ∃ handed state, lane.contract.rely state reached ∧
    ∀ more, lane.alone.run origin (start, handed ++ more) = some (result, ended, state, more)

/-- Alone and handed something, the run of a member never ends. -/
def HangsAlone (origin : Nat) (start : σ) (lane : Lane σ κ α) : Prop :=
  ∃ handed, ∀ more, lane.alone.run origin (start, handed ++ more) = none

namespace Tracks

variable {lane : Lane σ κ α} {origin now : Nat} {start shared : σ}
  {progress : Progress σ κ α}

/-- What others do, and time that passes while there is nothing to do, makes no difference. -/
theorem stays
    {member : Activity σ α}
    {later : Nat}
    {reached : σ}
    (tracks : lane.Tracks origin start now shared progress member)
    (relied : lane.contract.rely shared reached)
    (onwards : now ≤ later)
    (idle : later = now ∨ member.IdleUntil later) :
    lane.Tracks origin start later reached progress member where
  mirrors := tracks.mirrors
  relied := lane.contract.rely_trans _ _ _ tracks.relied relied
  onTime := tracks.onTime.delay onwards idle
  ran := tracks.ran

/-- The run alone does the next step of the member. -/
theorem act
    {effect : Nat → σ → σ}
    {next : Nat → σ → Activity σ α}
    (tracks : lane.Tracks origin start now shared progress (.step effect next)) :
    lane.contract.guarantee shared (effect now shared) ∧
    ∃ further : Progress σ κ α, further.instant = progress.instant ∧
      lane.Tracks origin start now (effect now shared) further (next now shared) := by
  obtain ⟨⟨act, follow, alone, each⟩, relied, onTime, ran⟩ := tracks
  obtain ⟨handed, rest, instant, state⟩ := progress
  obtain rfl : instant = now := onTime
  obtain rfl : rest = .step act follow := alone
  obtain ⟨guaranteed, drawn, reached, rest, given, still, mirrors⟩ :=
    each instant state shared relied
  refine ⟨guaranteed, ⟨handed ++ drawn, rest, instant, reached⟩, rfl, mirrors, still,
    Activity.onTime_self _ _, fun more => ?_⟩
  obtain ⟨acted, followed⟩ := given more
  rw [List.append_assoc, ran, Activity.run, acted, followed]

/-- The run alone sleeps until the alarm of the member. While others have moved the clock on, it has
not gone past that alarm. -/
theorem wake
    {alarm : Alarm}
    {next : Activity σ α}
    (tracks : lane.Tracks origin start now shared progress (.wait alarm next)) :
    ∃ further : Progress σ κ α, further.instant = max now alarm.instant ∧
      lane.Tracks origin start (max now alarm.instant) shared further next := by
  obtain ⟨⟨rest, alone, mirrors⟩, relied, ⟨early, inTime⟩, ran⟩ := tracks
  obtain ⟨handed, _, instant, state⟩ := progress
  obtain rfl : _ = Activity.wait alarm rest := alone
  have rings : max instant alarm.instant = max now alarm.instant := by
    simp only at early inTime
    omega
  refine ⟨⟨handed, rest, max now alarm.instant, state⟩, rfl, mirrors, relied,
    Activity.onTime_self _ _, fun more => ?_⟩
  rw [ran, Activity.run, rings]

theorem endsAlone
    {result : α}
    (tracks : lane.Tracks origin start now shared progress (.done result)) :
    lane.EndsAlone origin start result progress.instant shared := by
  obtain ⟨⟨rest, -⟩, relied, -, ran⟩ := tracks
  refine ⟨progress.handed, progress.state, relied, fun more => ?_⟩
  rw [ran, rest]
  rfl

theorem hangsAlone (tracks : lane.Tracks origin start now shared progress .hang) :
    lane.HangsAlone origin start := by
  obtain ⟨rest, -, -, ran⟩ := tracks
  refine ⟨progress.handed, fun more => ?_⟩
  rw [ran, show progress.rest = .hang from rest]
  rfl

end Tracks

end Lane

namespace Crew

open Activity

variable {σ α κ : Type}

/-- Replacing an entry keeps what it has in common with the new one. -/
theorem map_set_eq
    {β γ : Type}
    {function : β → γ}
    {list : List β}
    {position : Nat}
    {entry new : β}
    (here : list[position]? = some entry)
    (same : function new = function entry) :
    (list.set position new).map function = list.map function := by
  obtain ⟨inside, rfl⟩ := List.getElem?_eq_some_iff.1 here
  have mapped : position < (list.map function).length := by simpa using inside
  rw [List.map_set, same, ← List.getElem_map function (h := mapped), List.set_getElem_self]

theorem foldr_max_le_iff
    {origin bound : Nat}
    {instants : List Nat} :
    instants.foldr max origin ≤ bound ↔
      origin ≤ bound ∧ ∀ instant ∈ instants, instant ≤ bound := by
  induction instants with
  | nil => simp
  | cons first rest inductionHypothesis =>
    rw [List.foldr_cons, Nat.max_le, inductionHypothesis, List.forall_mem_cons, and_left_comm]

/-- An instant that comes after all others is the last one. -/
theorem foldr_max_set
    {origin latest position : Nat}
    {instants : List Nat}
    (onwards : instants.foldr max origin ≤ latest)
    (inside : position < instants.length) :
    (instants.set position latest).foldr max origin = latest := by
  obtain ⟨started, bounded⟩ := foldr_max_le_iff.1 onwards
  refine Nat.le_antisymm (foldr_max_le_iff.2 ⟨started, fun instant met => ?_⟩) ?_
  · rcases List.mem_or_eq_of_mem_set met with old | rfl
    · exact bounded instant old
    · exact Nat.le_refl _
  · exact (foldr_max_le_iff.1 (Nat.le_refl _)).2 latest (List.mem_set inside latest)

/-- Each member of a crew has come as far as its run alone, and the last of these runs to move has
come to the present. -/
structure Isolated (lanes : List (Lane σ κ α)) (origin : Nat) (start : σ)
    (tracks : List (Lane σ κ α × Progress σ κ α)) (crew : Crew σ α) : Prop where
  same : tracks.map Prod.fst = lanes
  beside : List.Forall₂ (fun track member =>
    track.1.Tracks origin start crew.instant crew.state track.2 member) tracks crew.members
  latest : crew.instant = (tracks.map fun track => track.2.instant).foldr max origin

namespace Isolated

variable {lanes : List (Lane σ κ α)} {origin : Nat} {start : σ}
  {tracks : List (Lane σ κ α × Progress σ κ α)} {crew later : Crew σ α}
  (apart : lanes.Pairwise fun first second => first.contract.Compatible second.contract)

include apart

/-- What one member does, each other one allows for. -/
theorem allowed
    {position place : Nat}
    {mover other : Lane σ κ α}
    (moves : lanes[position]? = some mover)
    (stays : lanes[place]? = some other)
    (different : place ≠ position)
    {before after : σ}
    (guaranteed : mover.contract.guarantee before after) :
    other.contract.rely before after := by
  obtain ⟨moverInside, rfl⟩ := List.getElem?_eq_some_iff.1 moves
  obtain ⟨otherInside, rfl⟩ := List.getElem?_eq_some_iff.1 stays
  have each := List.pairwise_iff_getElem.1 apart
  rcases Nat.lt_or_gt_of_ne different with earlier | later
  · exact (each place position otherInside moverInside earlier).rightAllowed
      before after guaranteed
  · exact (each position place moverInside otherInside later).leftAllowed before after guaranteed

/-- No member notices that another one advances. When the clock moves on, nobody has anything to do
before the alarm. -/
theorem advances
    (isolated : Isolated lanes origin start tracks crew)
    (advances : crew.Advances later) :
    ∃ further, Isolated lanes origin start further later := by
  obtain ⟨rfl, beside, latest⟩ := isolated
  have lane : ∀ {place : Nat} {track : Lane σ κ α × Progress σ κ α},
      tracks[place]? = some track →
      (tracks.map Prod.fst)[place]? = some track.1 := fun found => by
    rw [List.getElem?_map, found, Option.map_some]
  cases advances with
  | @act position effect next acts =>
    obtain ⟨⟨mover, progress⟩, found, moves, replace⟩ := exists_beside beside acts
    obtain ⟨guaranteed, further, sameInstant, moved⟩ := moves.act
    refine ⟨tracks.set position (mover, further), map_set_eq found rfl, replace moved ?_, ?_⟩
    · intro place track member different stays _ tracked
      have relied := allowed apart (lane found) (lane stays) different guaranteed
      exact tracked.stays relied (Nat.le_refl _) (Or.inl rfl)
    · rw [map_set_eq found sameInstant]
      exact latest
  | @wake position alarm next sleeps rings =>
    obtain ⟨⟨mover, progress⟩, found, moves, replace⟩ := exists_beside beside sleeps
    obtain ⟨further, rung, moved⟩ := moves.wake
    refine ⟨tracks.set position (mover, further), map_set_eq found rfl, replace moved ?_, ?_⟩
    · intro place track member different stays inCrew tracked
      refine tracked.stays (track.1.contract.rely_refl _) (Nat.le_max_left _ _) ?_
      rcases Nat.le_total alarm.instant crew.instant with rung | ahead
      · exact Or.inl (Nat.max_eq_left rung)
      · rw [Nat.max_eq_right ahead]
        rcases rings with rung | idle
        · exact Or.inl (Nat.le_antisymm rung ahead)
        · exact Or.inr (idle member (List.mem_of_getElem? inCrew))
    · have inside := (List.getElem?_eq_some_iff.1 found).1
      have onwards := Nat.le_trans (Nat.le_of_eq latest.symm)
        (Nat.le_max_left crew.instant alarm.instant)
      rw [List.map_set, rung, foldr_max_set onwards (by simpa using inside)]

theorem leads
    (isolated : Isolated lanes origin start tracks crew)
    (leads : crew.Leads later) :
    ∃ further, Isolated lanes origin start further later := by
  induction leads with
  | refl => exact ⟨tracks, isolated⟩
  | tail _ last inductionHypothesis =>
    obtain ⟨_, isolated⟩ := inductionHypothesis
    exact isolated.advances apart last

omit apart

theorem attained
    {results : List α}
    {ended : Nat}
    {reached : σ}
    (isolated : Isolated lanes origin start tracks (finished results ended reached)) :
    AllAttained (Lane.EndsAlone origin start) origin lanes results ended reached := by
  obtain ⟨rfl, beside, latest⟩ := isolated
  have each := (List.forall₂_map_right_iff.1 beside).imp fun _ _ tracks => tracks.endsAlone
  rw [show ended = _ from latest]
  clear beside latest
  induction each with
  | nil => exact .nil reached
  | cons first _ inductionHypothesis => exact .cons first inductionHypothesis

theorem hangsAlone
    (isolated : Isolated lanes origin start tracks crew)
    (stuck : .hang ∈ crew.members) :
    ∃ lane ∈ lanes, lane.HangsAlone origin start := by
  obtain ⟨rfl, beside, -⟩ := isolated
  obtain ⟨position, here⟩ := List.mem_iff_getElem?.1 stuck
  obtain ⟨⟨lane, progress⟩, found, tracks, -⟩ := exists_beside beside here
  exact ⟨lane, List.mem_map_of_mem (List.mem_of_getElem? found), tracks.hangsAlone⟩

end Isolated

variable {lanes : List (Lane σ κ α)} {members : List (Activity σ α)} {now : Nat} {state : σ}
  (apart : lanes.Pairwise fun first second => first.contract.Compatible second.contract)
  (mirrors : List.Forall₂ (fun lane member =>
    member.Mirrors lane.contract (fun _ => True) lane.alone) lanes members)

include mirrors

/-- At the start nobody has moved, and all have come as far as their runs alone. -/
theorem isolated_start : Isolated lanes now state
    (lanes.map fun lane => (lane, ⟨[], lane.alone, now, state⟩)) ⟨members, now, state⟩ where
  same := by
    rw [List.map_map]
    exact List.map_id _
  beside := by
    refine List.forall₂_map_left_iff.2 (mirrors.imp fun lane member mirrored => ?_)
    exact ⟨mirrored, lane.contract.rely_refl state, member.onTime_self now, fun more => rfl⟩
  latest := by
    refine Nat.le_antisymm (foldr_max_le_iff.1 (Nat.le_refl _)).1
      (foldr_max_le_iff.2 ⟨Nat.le_refl _, fun instant met => ?_⟩)
    obtain ⟨track, started, rfl⟩ := List.mem_map.1 met
    obtain ⟨lane, -, rfl⟩ := List.mem_map.1 started
    exact Nat.le_refl _

include apart

/-- Whatever the order is in which a crew finishes, each member ends as it does alone, and the crew
finishes with the last of them. -/
theorem endsAlone_of_leads
    {results : List α}
    {later : Nat}
    {reached : σ}
    (leads : Leads ⟨members, now, state⟩ (finished results later reached)) :
    AllAttained (Lane.EndsAlone now state) now lanes results later reached := by
  obtain ⟨_, isolated⟩ := (isolated_start mirrors).leads apart leads
  exact isolated.attained

/-- Whatever the order is, a member that gets stuck never ends alone. -/
theorem hangsAlone_of_leads
    {last : Crew σ α}
    (leads : Leads ⟨members, now, state⟩ last)
    (stuck : .hang ∈ last.members) :
    ∃ lane ∈ lanes, lane.HangsAlone now state := by
  obtain ⟨_, isolated⟩ := (isolated_start mirrors).leads apart leads
  exact isolated.hangsAlone stuck

end Crew

end Fleet
