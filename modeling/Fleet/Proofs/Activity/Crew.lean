import Fleet.Activity.Basic
import Mathlib.Data.List.Forall2
import Mathlib.Logic.Relation

/-!
# Crews

A crew is what is left of some activities side by side, with the instant and the state that they
share. It advances by a step of any member, or by the alarm of one. The clock moves only while
nobody has anything to do before the alarm rings. In which order the members advance is left open,
and a group that is looked after in a certain way follows one of the orders.

Every advance uses up a part of one member, so no order goes on forever: whatever the order is, a
crew comes to a point where each member has finished or is stuck.
-/

namespace Fleet

/-- Activities side by side over one state. -/
structure Crew (σ α : Type) where
  /-- What is left of each activity. -/
  members : List (Activity σ α)
  instant : Nat
  state : σ

variable {σ α : Type}

namespace Activity

/-- Nothing is left to do before an instant. -/
def IdleUntil (instant : Nat) : Activity σ α → Prop
  | done _ => True
  | step _ _ => False
  | wait alarm _ => instant ≤ alarm.instant
  | hang => True

/-- Nothing is left to do. -/
def Ended : Activity σ α → Prop
  | done _ => True
  | step _ _ => False
  | wait _ _ => False
  | hang => True

theorem IdleUntil.mono
    {activity : Activity σ α}
    {early late : Nat}
    (idle : activity.IdleUntil late)
    (earlier : early ≤ late) :
    activity.IdleUntil early := by
  cases activity with
  | done result => trivial
  | step effect next => exact idle
  | wait alarm next => exact Nat.le_trans earlier idle
  | hang => trivial

theorem Ended.idleUntil
    {activity : Activity σ α}
    (ended : activity.Ended)
    (instant : Nat) :
    activity.IdleUntil instant := by
  cases activity with
  | done result => trivial
  | step effect next => exact ended
  | wait alarm next => exact ended.elim
  | hang => trivial

/-- What may be left of an activity when it has advanced once. -/
inductive Leaves : Activity σ α → Activity σ α → Prop where
  | step (effect : Nat → σ → σ) (next : Nat → σ → Activity σ α)
      (now : Nat) (state : σ) :
    Leaves (next now state) (step effect next)
  | wait (alarm : Alarm) (next : Activity σ α) : Leaves next (wait alarm next)

/-- An activity cannot leave something behind for ever. -/
theorem acc_leaves (activity : Activity σ α) : Acc Leaves activity := by
  induction activity with
  | done result =>
    constructor
    intro rest leaves
    cases leaves
  | step effect next inductionHypothesis =>
    constructor
    rintro rest ⟨⟩
    exact inductionHypothesis _ _
  | wait alarm next inductionHypothesis =>
    constructor
    rintro rest ⟨⟩
    exact inductionHypothesis
  | hang =>
    constructor
    intro rest leaves
    cases leaves

/-- What several activities can do next: one acts, or all have ended, or an alarm rings before which
nobody has anything to do. -/
inductive Outlook (members : List (Activity σ α)) : Prop where
  | acts (position : Nat) {effect : Nat → σ → σ} {next : Nat → σ → Activity σ α}
      (acts : members[position]? = some (.step effect next))
  | ended (ended : ∀ member ∈ members, member.Ended)
  | sleeps (position : Nat) {alarm : Alarm} {next : Activity σ α}
      (sleeps : members[position]? = some (.wait alarm next))
      (idle : ∀ member ∈ members, member.IdleUntil alarm.instant)

/-- An activity that has ended does not change what others can do. -/
theorem Outlook.besideEnded
    {first : Activity σ α}
    {rest : List (Activity σ α)}
    (outlook : Outlook rest)
    (gone : first.Ended) :
    Outlook (first :: rest) := by
  cases outlook with
  | acts position acts => exact .acts (position + 1) acts
  | ended ended => exact .ended (List.forall_mem_cons.2 ⟨gone, ended⟩)
  | @sleeps position alarm _ sleeps idle =>
    have everyone := List.forall_mem_cons.2 ⟨gone.idleUntil alarm.instant, idle⟩
    exact .sleeps (position + 1) sleeps everyone

/-- The next of several alarms is the earliest one. -/
theorem outlook (members : List (Activity σ α)) : Outlook members := by
  induction members with
  | nil => exact .ended (by simp)
  | cons first rest inductionHypothesis =>
    cases first with
    | done result => exact inductionHypothesis.besideEnded trivial
    | step effect next => exact .acts 0 rfl
    | wait alarm next =>
      cases inductionHypothesis with
      | acts position acts => exact .acts (position + 1) acts
      | ended ended =>
        refine .sleeps 0 rfl (List.forall_mem_cons.2 ⟨Nat.le_refl _, ?_⟩)
        exact fun member inRest => (ended member inRest).idleUntil alarm.instant
      | @sleeps position other _ sleeps idle =>
        rcases Nat.le_total other.instant alarm.instant with later | earlier
        · exact .sleeps (position + 1) sleeps (List.forall_mem_cons.2 ⟨later, idle⟩)
        · refine .sleeps 0 rfl (List.forall_mem_cons.2 ⟨Nat.le_refl _, ?_⟩)
          exact fun member inRest => (idle member inRest).mono earlier
    | hang => exact inductionHypothesis.besideEnded trivial

end Activity

namespace Crew

open Activity

/-- One of the members advances. -/
inductive Advances (crew : Crew σ α) : Crew σ α → Prop where
  | act {position : Nat} {effect : Nat → σ → σ} {next : Nat → σ → Activity σ α}
      (acts : crew.members[position]? = some (.step effect next)) :
    Advances crew ⟨crew.members.set position (next crew.instant crew.state), crew.instant,
      effect crew.instant crew.state⟩
  | wake {position : Nat} {alarm : Alarm} {next : Activity σ α}
      (sleeps : crew.members[position]? = some (.wait alarm next))
      (rings : alarm.instant ≤ crew.instant ∨
        ∀ member ∈ crew.members, member.IdleUntil alarm.instant) :
    Advances crew ⟨crew.members.set position next, max crew.instant alarm.instant, crew.state⟩

/-- From one crew to another one in some order. -/
abbrev Leads : Crew σ α → Crew σ α → Prop :=
  Relation.ReflTransGen Advances

/-- Each member has finished, with the results in the order of the members. -/
def finished (results : List α) (instant : Nat) (state : σ) : Crew σ α :=
  ⟨results.map .done, instant, state⟩

/-- Whatever the order is, the crew comes to a point where a condition holds. -/
inductive Inevitably (goal : Crew σ α → Prop) : Crew σ α → Prop where
  | reached {crew : Crew σ α} (holds : goal crew) : Inevitably goal crew
  | onwards {crew : Crew σ α} (goesOn : ∃ later, crew.Advances later)
      (each : ∀ later, crew.Advances later → Inevitably goal later) : Inevitably goal crew

/-- Members that have ended have finished, unless one is stuck. -/
theorem hangs_or_finished
    {members : List (Activity σ α)}
    (ended : ∀ member ∈ members, member.Ended) :
    hang ∈ members ∨ ∃ results : List α, members = results.map done := by
  induction members with
  | nil => exact Or.inr ⟨[], rfl⟩
  | cons first rest inductionHypothesis =>
    obtain ⟨firstEnded, restEnded⟩ := List.forall_mem_cons.1 ended
    rcases inductionHypothesis restEnded with stuck | ⟨results, rfl⟩
    · exact Or.inl (List.mem_cons_of_mem first stuck)
    · cases first with
      | done result => exact Or.inr ⟨result :: results, rfl⟩
      | step effect next => exact firstEnded.elim
      | wait alarm next => exact firstEnded.elim
      | hang => exact Or.inl List.mem_cons_self

/-- A crew can advance until all its members have ended. -/
theorem ended_or_advances (crew : Crew σ α) :
    (∀ member ∈ crew.members, member.Ended) ∨ ∃ later, crew.Advances later := by
  cases outlook crew.members with
  | acts _ acts => exact Or.inr ⟨_, .act acts⟩
  | ended ended => exact Or.inl ended
  | sleeps _ sleeps idle => exact Or.inr ⟨_, .wake sleeps (Or.inr idle)⟩

/-- Of two lists side by side, an entry has one beside it. Both can be replaced, also where the
relation changes, as long as the others stay related. -/
theorem exists_beside
    {β γ : Type}
    {relation : β → γ → Prop}
    {left : List β}
    {right : List γ}
    (beside : List.Forall₂ relation left right)
    {position : Nat}
    {other : γ}
    (here : right[position]? = some other) :
    ∃ entry, left[position]? = some entry ∧ relation entry other ∧
      ∀ {later : β → γ → Prop} {first second}, later first second →
        (∀ place one two, place ≠ position →
          left[place]? = some one → right[place]? = some two →
          relation one two → later one two) →
        List.Forall₂ later (left.set position first) (right.set position second) := by
  induction beside generalizing position with
  | nil => cases here
  | @cons one two _ _ related rest inductionHypothesis =>
    cases position with
    | zero =>
      cases here
      refine ⟨_, rfl, related, fun replaced others => .cons replaced ?_⟩
      refine List.forall₂_iff_get.2 ⟨rest.length_eq, fun place inLeft inRight => ?_⟩
      exact others (place + 1) _ _ (Nat.succ_ne_zero place) (List.getElem?_eq_getElem inLeft)
        (List.getElem?_eq_getElem inRight) (rest.get inLeft inRight)
    | succ position =>
      obtain ⟨entry, found, relates, replace⟩ := inductionHypothesis here
      refine ⟨entry, found, relates, fun replaced others => .cons ?_ ?_⟩
      · exact others 0 one two (Nat.succ_ne_zero position).symm rfl rfl related
      · exact replace replaced fun place one two different =>
          others (place + 1) one two fun same => different (Nat.succ.inj same)

/-- One of several activities has advanced. -/
def Shrinks (shorter longer : List (Activity σ α)) : Prop :=
  ∃ position member rest, longer[position]? = some member ∧ rest.Leaves member ∧
    shorter = longer.set position rest

theorem Advances.shrinks
    {crew later : Crew σ α}
    (advances : crew.Advances later) :
    Shrinks later.members crew.members := by
  cases advances with
  | act acts => exact ⟨_, _, _, acts, .step _ _ _ _, rfl⟩
  | wake sleeps rings => exact ⟨_, _, _, sleeps, .wait _ _, rfl⟩

/-- A crew cannot shrink for ever when neither its first member nor the rest can. The first member
shrinks beside any others, and each of the others beside this member. -/
theorem acc_cons
    {first : Activity σ α}
    {rest : List (Activity σ α)}
    (accFirst : Acc Leaves first)
    (accRest : Acc Shrinks rest) :
    Acc Shrinks (first :: rest) := by
  induction accFirst generalizing rest with
  | intro first _ firstShrinks =>
    induction accRest with
    | intro rest accRest restShrinks =>
      constructor
      rintro shorter ⟨position, member, left, here, leaves, rfl⟩
      cases position with
      | zero =>
        cases here
        exact firstShrinks left leaves (Acc.intro rest accRest)
      | succ position => exact restShrinks _ ⟨position, member, left, here, leaves, rfl⟩

theorem acc_shrinks (members : List (Activity σ α)) : Acc Shrinks members := by
  induction members with
  | nil =>
    constructor
    rintro shorter ⟨position, member, left, here, -⟩
    cases here
  | cons first rest inductionHypothesis => exact acc_cons (acc_leaves first) inductionHypothesis

/-- Whatever the order is, a crew comes to an end. -/
theorem inevitably_of_ended
    {goal : Crew σ α → Prop}
    (crew : Crew σ α)
    (reached : ∀ later, crew.Leads later → (∀ member ∈ later.members, member.Ended) →
      goal later) :
    crew.Inevitably goal := by
  generalize shape : crew.members = members
  induction acc_shrinks members generalizing crew with
  | intro members _ inductionHypothesis =>
    rcases crew.ended_or_advances with ended | goesOn
    · exact .reached (reached crew .refl ended)
    · refine .onwards goesOn fun later advances => ?_
      have shrinks := advances.shrinks
      rw [shape] at shrinks
      exact inductionHypothesis later.members shrinks later
        (fun last leads ended => reached last (leads.head advances) ended) rfl

end Crew

end Fleet
