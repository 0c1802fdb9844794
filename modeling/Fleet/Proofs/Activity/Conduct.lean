import Fleet.Proofs.Activity.Crew
import Fleet.Proofs.Activity.Instant

/-!
# Groups as crews

A group advances its members one at a time, and sleeps only when all of them sleep. So the run of a
group is one of the orders in which its members can advance as a crew, for small groups and for
queues alike: a group that finishes leads its crew to the results, and a group that never finishes
leads it to a point where some member is stuck.
-/

namespace Fleet

theorem Alarm.le_of_isDueBy
    {alarm other : Alarm}
    (due : alarm.isDueBy other = true) :
    alarm.instant ≤ other.instant := by
  simp only [isDueBy, Bool.or_eq_true, Bool.and_eq_true, decide_eq_true_eq, beq_iff_eq] at due
  omega

theorem Alarm.ge_of_not_isDueBy
    {alarm other : Alarm}
    (notDue : ¬ alarm.isDueBy other = true) :
    other.instant ≤ alarm.instant := by
  simp only [isDueBy, Bool.or_eq_true, Bool.and_eq_true, decide_eq_true_eq, beq_iff_eq] at notDue
  omega

variable {σ α β γ δ : Type}

namespace Activity

/-- An activity that advances others one at a time, and from whose result theirs can be read. -/
def Conducts (read : γ → List α) : Activity σ γ → List (Activity σ α) → Prop
  | done result, members => members = (read result).map done
  | step effect next, members => ∃ position following,
    members[position]? = some (step effect following) ∧
    ∀ now state, (next now state).Conducts read (members.set position (following now state))
  | wait alarm next, members => ∃ position following,
    members[position]? = some (wait alarm following) ∧
    (∀ member ∈ members, member.IdleUntil alarm.instant) ∧
    next.Conducts read (members.set position following)
  | hang, members => hang ∈ members ∧ ∀ member ∈ members, member.Ended

variable {read : γ → List α} {tell : δ → List α} {group : Activity σ γ}
  {members : List (Activity σ α)}

theorem ended_of_mem_map_done {results : List α} :
    ∀ member ∈ results.map (done : α → Activity σ α), member.Ended := by
  intro member inResults
  obtain ⟨result, -, rfl⟩ := List.mem_map.1 inResults
  trivial

namespace Conducts

/-- What follows a group goes on with the results of the members. -/
theorem bind
    {continuation : γ → Activity σ δ}
    (conducts : group.Conducts read members)
    (onwards : ∀ result, (continuation result).Conducts tell ((read result).map done)) :
    (group.bind continuation).Conducts tell members := by
  induction group generalizing members with
  | done result =>
    obtain rfl : members = _ := conducts
    exact onwards result
  | step effect next inductionHypothesis =>
    obtain ⟨position, following, acts, each⟩ := conducts
    exact ⟨position, following, acts, fun now state =>
      inductionHypothesis now state (each now state)⟩
  | wait alarm next inductionHypothesis =>
    obtain ⟨position, following, sleeps, idle, conducts⟩ := conducts
    exact ⟨position, following, sleeps, idle, inductionHypothesis conducts⟩
  | hang => exact conducts

/-- A group goes on as before behind a member that has ended. -/
theorem behindEnded
    {first : Activity σ α}
    {continuation : γ → Activity σ δ}
    (conducts : group.Conducts read members)
    (gone : first.Ended)
    (onwards : ∀ result,
      (continuation result).Conducts tell (first :: (read result).map done)) :
    (group.bind continuation).Conducts tell (first :: members) := by
  induction group generalizing members with
  | done result =>
    obtain rfl : members = _ := conducts
    exact onwards result
  | step effect next inductionHypothesis =>
    obtain ⟨position, following, acts, each⟩ := conducts
    exact ⟨position + 1, following, acts, fun now state =>
      inductionHypothesis now state (each now state)⟩
  | wait alarm next inductionHypothesis =>
    obtain ⟨position, following, sleeps, idle, conducts⟩ := conducts
    exact ⟨position + 1, following, sleeps,
      List.forall_mem_cons.2 ⟨gone.idleUntil alarm.instant, idle⟩,
      inductionHypothesis conducts⟩
  | hang =>
    exact ⟨List.mem_cons_of_mem first conducts.1,
      List.forall_mem_cons.2 ⟨gone, conducts.2⟩⟩

end Conducts

/-- An activity goes on by itself when the others have ended. -/
theorem conducts_alone
    {first : Activity σ α}
    {continuation : α → Activity σ δ}
    (ended : ∀ member ∈ members, member.Ended)
    (onwards : ∀ result, (continuation result).Conducts tell (done result :: members)) :
    (first.bind continuation).Conducts tell (first :: members) := by
  induction first with
  | done result => exact onwards result
  | step effect next inductionHypothesis =>
    exact ⟨0, next, rfl, fun now state => inductionHypothesis now state⟩
  | wait alarm next inductionHypothesis =>
    refine ⟨0, next, rfl, List.forall_mem_cons.2 ⟨Nat.le_refl _, ?_⟩, inductionHypothesis⟩
    exact fun member inRest => (ended member inRest).idleUntil alarm.instant
  | hang => exact ⟨List.mem_cons_self, List.forall_mem_cons.2 ⟨trivial, ended⟩⟩

/-- While the first member sleeps, a group goes on with the others. -/
theorem Conducts.besideSleeper
    {alarm : Alarm}
    {next : Activity σ α}
    {resume : Activity σ γ → Activity σ δ}
    {leftOnly : γ → Activity σ δ}
    {stalled : Activity σ δ}
    (resumes : ∀ group members, group.Conducts read members →
      (resume group).Conducts tell (next :: members))
    (alone : ∀ result, (leftOnly result).Conducts tell
      (wait alarm next :: (read result).map done))
    (stalls : ∀ members, hang ∈ members → (∀ member ∈ members, member.Ended) →
      stalled.Conducts tell (wait alarm next :: members))
    (conducts : group.Conducts read members) :
    (Activity.besideSleeper alarm resume leftOnly stalled group).Conducts tell
      (wait alarm next :: members) := by
  induction group generalizing members with
  | done result =>
    obtain rfl : members = _ := conducts
    exact alone result
  | step effect following inductionHypothesis =>
    obtain ⟨position, left, acts, each⟩ := conducts
    exact ⟨position + 1, left, acts, fun now state =>
      inductionHypothesis now state (each now state)⟩
  | wait other following inductionHypothesis =>
    obtain ⟨position, left, sleeps, idle, rest⟩ := conducts
    rw [Activity.besideSleeper]
    split
    case isTrue due =>
      refine ⟨0, next, rfl, List.forall_mem_cons.2 ⟨Nat.le_refl _, ?_⟩,
        resumes _ _ ⟨position, left, sleeps, idle, rest⟩⟩
      exact fun member inRest => (idle member inRest).mono (Alarm.le_of_isDueBy due)
    case isFalse notDue =>
      exact ⟨position + 1, left, sleeps,
        List.forall_mem_cons.2 ⟨Alarm.ge_of_not_isDueBy notDue, idle⟩,
        inductionHypothesis rest⟩
  | hang => exact stalls members conducts.1 conducts.2

/-- Of two activities side by side, the left one is a member beside those of the right one. -/
theorem Conducts.together
    {first : Activity σ α}
    (conducts : group.Conducts read members) :
    (first.together group).Conducts (fun pair => pair.1 :: read pair.2) (first :: members) := by
  induction first generalizing group members with
  | done result =>
    rw [together_done]
    exact conducts.behindEnded trivial fun others => rfl
  | step effect next inductionHypothesis =>
    exact ⟨0, next, rfl, fun now state => inductionHypothesis now state conducts⟩
  | wait alarm next inductionHypothesis =>
    refine Conducts.besideSleeper ?_ ?_ ?_ conducts
    · exact fun group members conducts => inductionHypothesis conducts
    · intro others
      refine ⟨0, next, rfl, List.forall_mem_cons.2 ⟨Nat.le_refl _, ?_⟩,
        conducts_alone ended_of_mem_map_done fun result => rfl⟩
      exact fun member inRest => (ended_of_mem_map_done member inRest).idleUntil alarm.instant
    · intro members stuck ended
      refine ⟨0, next, rfl, List.forall_mem_cons.2 ⟨Nat.le_refl _, ?_⟩,
        conducts_alone ended fun result => ?_⟩
      · exact fun member inRest => (ended member inRest).idleUntil alarm.instant
      · exact ⟨List.mem_cons_of_mem _ stuck, List.forall_mem_cons.2 ⟨trivial, ended⟩⟩
  | hang =>
    refine conducts.behindEnded trivial fun others => ?_
    exact ⟨List.mem_cons_self, List.forall_mem_cons.2 ⟨trivial, ended_of_mem_map_done⟩⟩

theorem conducts_all (activities : List (Activity σ α)) :
    (all activities).Conducts id activities := by
  induction activities with
  | nil => rfl
  | cons first rest inductionHypothesis =>
    exact inductionHypothesis.together.bind fun pair => rfl

/-- What conducts a crew follows one of its orders. -/
theorem Conducts.leads
    (conducts : group.Conducts read members)
    {now later : Nat}
    {state reached : σ}
    {result : γ}
    (ran : group.run now state = some (result, later, reached)) :
    Crew.Leads ⟨members, now, state⟩ (Crew.finished (read result) later reached) := by
  induction group generalizing members now state with
  | done value =>
    cases ran
    obtain rfl : members = _ := conducts
    exact .refl
  | step effect next inductionHypothesis =>
    obtain ⟨position, following, acts, each⟩ := conducts
    exact .head (.act acts) (inductionHypothesis now state (each now state) ran)
  | wait alarm next inductionHypothesis =>
    obtain ⟨position, following, sleeps, idle, conducts⟩ := conducts
    exact .head (.wake sleeps (Or.inr idle)) (inductionHypothesis conducts ran)
  | hang => cases ran

/-- What conducts a crew and never finishes leads it to a point where a member is stuck. -/
theorem Conducts.leads_to_hang
    (conducts : group.Conducts read members)
    {now : Nat}
    {state : σ}
    (stuck : group.run now state = none) :
    ∃ last, Crew.Leads ⟨members, now, state⟩ last ∧ hang ∈ last.members := by
  induction group generalizing members now state with
  | done value => cases stuck
  | step effect next inductionHypothesis =>
    obtain ⟨position, following, acts, each⟩ := conducts
    obtain ⟨last, leads, hangs⟩ := inductionHypothesis now state (each now state) stuck
    exact ⟨last, .head (.act acts) leads, hangs⟩
  | wait alarm next inductionHypothesis =>
    obtain ⟨position, following, sleeps, idle, conducts⟩ := conducts
    obtain ⟨last, leads, hangs⟩ := inductionHypothesis conducts stuck
    exact ⟨last, .head (.wake sleeps (Or.inr idle)) leads, hangs⟩
  | hang => exact ⟨_, .refl, conducts.1⟩

/-! ## Queues -/

/-- An activity and the same one with numbered alarms; an alarm that has been set has its place. -/
inductive Numbers : Activity σ α → Activity (σ × Nat) α → Prop where
  | unset (activity : Activity σ α) : Numbers activity activity.numbered
  | set (alarm : Alarm) (place : Nat) (next : Activity σ α) :
    Numbers (wait alarm next) (wait ⟨alarm.instant, place⟩ next.numbered)

namespace Numbers

/-- An activity is idle as long as the same one with numbered alarms is. -/
theorem idleUntil
    {plain : Activity σ α}
    {counted : Activity (σ × Nat) α}
    {instant : Nat}
    (numbers : Numbers plain counted)
    (idle : counted.IdleUntil instant) :
    plain.IdleUntil instant := by
  cases numbers with
  | unset =>
    cases plain with
    | done result => trivial
    | step effect next => exact idle
    | wait alarm next => exact idle.elim
    | hang => trivial
  | set => exact idle

theorem of_done
    {plain : Activity σ α}
    {result : α}
    (numbers : Numbers plain (done result)) :
    plain = done result := by
  generalize same : (done result : Activity (σ × Nat) α) = counted at numbers
  cases numbers with
  | unset => cases plain <;> cases same; rfl
  | set => cases same

theorem of_hang
    {plain : Activity σ α}
    (numbers : Numbers plain hang) :
    plain = hang := by
  generalize same : (hang : Activity (σ × Nat) α) = counted at numbers
  cases numbers with
  | unset => cases plain <;> cases same; rfl
  | set => cases same

end Numbers

end Activity

namespace Crew

open Activity (Numbers)

/-- A crew and the same one with numbered alarms. -/
structure Counts (plain : Crew σ α) (counted : Crew (σ × Nat) α) : Prop where
  sameInstant : counted.instant = plain.instant
  sameState : counted.state.1 = plain.state
  beside : List.Forall₂ Numbers plain.members counted.members

namespace Counts

variable {plain : Crew σ α} {counted later : Crew (σ × Nat) α}

theorem idleUntil
    (counts : Counts plain counted)
    {instant : Nat}
    (idle : ∀ member ∈ counted.members, member.IdleUntil instant) :
    ∀ member ∈ plain.members, member.IdleUntil instant := by
  have beside := counts.beside
  generalize plain.members = plainMembers, counted.members = countedMembers at beside idle
  induction beside with
  | nil => simp
  | cons numbers _ inductionHypothesis =>
    obtain ⟨first, rest⟩ := List.forall_mem_cons.1 idle
    exact List.forall_mem_cons.2 ⟨numbers.idleUntil first, inductionHypothesis rest⟩

/-- To set an alarm is no advance of the crew itself, and an alarm that has rung already is never
set; any other advance is one. -/
theorem advances
    (counts : Counts plain counted)
    (advances : counted.Advances later) :
    ∃ next, plain.Leads next ∧ Counts next later := by
  obtain ⟨members, _, _⟩ := plain
  obtain ⟨countedMembers, now, state, number⟩ := counted
  obtain ⟨rfl, rfl, beside⟩ := counts
  cases advances with
  | @act position effect next acts =>
    obtain ⟨member, here, numbers, replace⟩ := exists_beside beside acts
    generalize same : Activity.step effect next = countedMember at numbers
    cases numbers with
    | unset =>
      cases member with
      | done result => cases same
      | step effect next =>
        cases same
        exact ⟨_, .single (.act here), rfl, rfl,
          replace (.unset _) fun _ _ _ _ _ _ stays => stays⟩
      | wait alarm next =>
        cases same
        simp only
        split
        case isTrue due =>
          exact ⟨_, .single (.wake here (Or.inl due)), (Nat.max_eq_left due).symm, rfl,
            replace (.unset next) fun _ _ _ _ _ _ stays => stays⟩
        case isFalse notDue =>
          have stays := replace (.set alarm number next) fun _ _ _ _ _ _ stays => stays
          obtain ⟨inside, same⟩ := List.getElem?_eq_some_iff.1 here
          rw [← same, List.set_getElem_self] at stays
          exact ⟨_, .refl, rfl, rfl, stays⟩
      | hang => cases same
    | set => cases same
  | @wake position alarm next sleeps rings =>
    obtain ⟨member, here, numbers, replace⟩ := exists_beside beside sleeps
    generalize same : Activity.wait alarm next = countedMember at numbers
    cases numbers with
    | unset => cases member <;> cases same
    | set alarm place next =>
      cases same
      have rings :
          alarm.instant ≤ now ∨ ∀ member ∈ members, member.IdleUntil alarm.instant :=
        rings.imp_right fun idle => idleUntil ⟨rfl, rfl, beside⟩ idle
      exact ⟨_, .single (.wake here rings), rfl, rfl,
        replace (.unset next) fun _ _ _ _ _ _ stays => stays⟩

theorem leads
    (counts : Counts plain counted)
    (leads : counted.Leads later) :
    ∃ next, plain.Leads next ∧ Counts next later := by
  induction leads with
  | refl => exact ⟨plain, .refl, counts⟩
  | tail _ last inductionHypothesis =>
    obtain ⟨middle, before, counts⟩ := inductionHypothesis
    obtain ⟨next, after, counts⟩ := counts.advances last
    exact ⟨next, before.trans after, counts⟩

/-- A crew has finished when the same one with numbered alarms has. -/
theorem finished
    {results : List α}
    {instant : Nat}
    {whole : σ × Nat}
    (counts : Counts plain (Crew.finished results instant whole)) :
    plain = Crew.finished results instant whole.1 := by
  obtain ⟨members, _, _⟩ := plain
  obtain ⟨rfl, rfl, beside⟩ := counts
  have done : members = results.map .done := by
    have each :
        List.Forall₂ (fun member result => Numbers member (.done result)) members results :=
      List.forall₂_map_right_iff.1 beside
    clear beside
    induction each with
    | nil => rfl
    | cons numbers _ inductionHypothesis =>
      rw [List.map_cons, numbers.of_done, inductionHypothesis]
  rw [done]
  rfl

theorem hangs
    (counts : Counts plain counted)
    (stuck : .hang ∈ counted.members) :
    .hang ∈ plain.members := by
  obtain ⟨position, here⟩ := List.mem_iff_getElem?.1 stuck
  obtain ⟨member, found, numbers, -⟩ := exists_beside counts.beside here
  rw [numbers.of_hang] at found
  exact List.mem_of_getElem? found

end Counts

theorem counts_numbered
    (activities : List (Activity σ α))
    (now number : Nat)
    (state : σ) :
    Counts ⟨activities, now, state⟩ ⟨activities.map .numbered, now, state, number⟩ where
  sameInstant := rfl
  sameState := rfl
  beside := List.forall₂_map_right_iff.2 (List.forall₂_same.2 fun activity _ => .unset activity)

variable {activities : List (Activity σ α)} {now : Nat} {state : σ}

/-- A group that finishes has followed one of the orders of its members. -/
theorem leads_of_run_gathered
    {results : List α}
    {later : Nat}
    {reached : σ}
    (ran : (Activity.gathered activities).run now state = some (results, later, reached)) :
    Leads ⟨activities, now, state⟩ (finished results later reached) := by
  rw [Activity.gathered] at ran
  split at ran
  · exact (Activity.conducts_all activities).leads ran
  · rw [Activity.queued, Activity.run_unnumbered] at ran
    obtain ⟨⟨results, later, whole⟩, counted, same⟩ := Option.map_eq_some_iff.1 ran
    cases same
    have leads := (Activity.conducts_all (activities.map .numbered)).leads counted
    obtain ⟨next, leads, counts⟩ := (counts_numbered activities now 0 state).leads leads
    rwa [counts.finished] at leads

/-- A group that never finishes has followed an order that leaves a member stuck. -/
theorem leads_to_hang_of_run_gathered
    (stuck : (Activity.gathered activities).run now state = none) :
    ∃ last, Leads ⟨activities, now, state⟩ last ∧ .hang ∈ last.members := by
  rw [Activity.gathered] at stuck
  split at stuck
  · exact (Activity.conducts_all activities).leads_to_hang stuck
  · rw [Activity.queued, Activity.run_unnumbered] at stuck
    have counted := Option.map_eq_none_iff.1 stuck
    obtain ⟨last, leads, hangs⟩ :=
      (Activity.conducts_all (activities.map .numbered)).leads_to_hang counted
    obtain ⟨next, leads, counts⟩ := (counts_numbered activities now 0 state).leads leads
    exact ⟨next, leads, counts.hangs hangs⟩

end Crew

end Fleet
