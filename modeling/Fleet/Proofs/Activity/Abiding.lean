import Fleet.Proofs.Activity.Conduct
import Fleet.Proofs.Activity.Interference
import Fleet.Proofs.Activity.Safety

/-!
# Activities that abide by a contract

An activity that never finishes attains nothing, and still it may be known to do no harm: as long as
others do only what it relies on, each of its steps is one that it guarantees, and its goal holds if
it finishes. It is said of every instant at once. Members of a group that abide by contracts which
go together keep the state safe in whatever order they advance, and so does the group, whether it
finishes or not.
-/

namespace Fleet

variable {σ τ ρ α β γ κ : Type}

namespace Contract

/-- The contract of those who do not change what they see of the state, and who rely on others for
the same. -/
def keeping (view : σ → τ) : Contract σ where
  rely before after := view before = view after
  guarantee before after := view before = view after
  rely_refl _ := rfl
  rely_trans _ _ _ := Eq.trans
  guarantee_refl _ := rfl

theorem compatible_keeping (view : σ → τ) : (keeping view).Compatible (keeping view) :=
  ⟨fun _ _ same => same, fun _ _ same => same⟩

end Contract

namespace Activity

variable {contract : Contract σ} {goal : α → σ → Prop} {state : σ}

/-- Under its contract each step of the activity is a guaranteed one, and the goal holds if it
finishes. -/
def Abides (contract : Contract σ) (goal : α → σ → Prop) : Activity σ α → σ → Prop
  | done result, state => ∀ later, contract.rely state later → goal result later
  | step effect next, state => ∀ now met, contract.rely state met →
    contract.guarantee met (effect now met) ∧
      (next now met).Abides contract goal (effect now met)
  | wait _ next, state => next.Abides contract goal state
  | hang, _ => True

/-- Under its contract each step of the activity is a guaranteed one. -/
abbrev Respects (contract : Contract σ) (activity : Activity σ α) (state : σ) : Prop :=
  activity.Abides contract (fun _ _ => True) state

theorem abides_step_iff
    {effect : Nat → σ → σ}
    {next : Nat → σ → Activity σ α} :
    (step effect next).Abides contract goal state ↔ ∀ now met, contract.rely state met →
      contract.guarantee met (effect now met) ∧
        (next now met).Abides contract goal (effect now met) := Iff.rfl

theorem respects_done (result : α) : (done result).Respects contract state :=
  fun _ _ => trivial

theorem respects_observe (view : Nat → σ → α) : (observe view).Respects contract state :=
  fun _ met _ => ⟨contract.guarantee_refl met, fun _ _ => trivial⟩

theorem abides_observe
    {view : Nat → σ → α}
    (seen : ∀ now met later, contract.rely state met → contract.rely met later →
      goal (view now met) later) :
    (observe view).Abides contract goal state :=
  fun now met relied => ⟨contract.guarantee_refl met, fun later => seen now met later relied⟩

theorem respects_modify
    {change : σ → σ}
    (allowed : ∀ met, contract.guarantee met (change met)) :
    (modify change).Respects contract state :=
  fun _ met _ => ⟨allowed met, fun _ _ => trivial⟩

namespace Abides

/-- What others do to the state does not make an activity break its contract. -/
theorem interfere
    {activity : Activity σ α}
    {later : σ}
    (abides : activity.Abides contract goal state)
    (relied : contract.rely state later) :
    activity.Abides contract goal later := by
  induction activity with
  | done result => exact fun last further => abides last (contract.rely_trans _ _ _ relied further)
  | step effect next _ =>
    exact fun now met further => abides now met (contract.rely_trans _ _ _ relied further)
  | wait alarm next inductionHypothesis => exact inductionHypothesis abides
  | hang => trivial

/-- What follows an activity may take its goal for granted. -/
theorem bind
    {activity : Activity σ α}
    {continuation : α → Activity σ β}
    {other : β → σ → Prop}
    (abides : activity.Abides contract goal state)
    (onwards : ∀ result reached, goal result reached →
      (continuation result).Abides contract other reached) :
    (activity.bind continuation).Abides contract other state := by
  induction activity generalizing state with
  | done result => exact onwards result state (abides state (contract.rely_refl state))
  | step effect next inductionHypothesis =>
    intro now met relied
    obtain ⟨allowed, following⟩ := abides now met relied
    exact ⟨allowed, inductionHypothesis now met following⟩
  | wait alarm next inductionHypothesis => exact inductionHypothesis abides
  | hang => trivial

/-- Nothing is asked of the goal of a sequence whose steps are all that counts. -/
theorem respects_bind
    {activity : Activity σ α}
    {continuation : α → Activity σ β}
    (abides : activity.Abides contract goal state)
    (onwards : ∀ result reached, goal result reached →
      (continuation result).Respects contract reached) :
    (activity.bind continuation).Respects contract state :=
  abides.bind onwards

/-- A goal may be replaced by a weaker one. -/
theorem mono
    {activity : Activity σ α}
    {other : α → σ → Prop}
    (abides : activity.Abides contract goal state)
    (weaker : ∀ result reached, goal result reached → other result reached) :
    activity.Abides contract other state := by
  induction activity generalizing state with
  | done result => exact fun later relied => weaker result later (abides later relied)
  | step effect next inductionHypothesis =>
    intro now met relied
    obtain ⟨allowed, following⟩ := abides now met relied
    exact ⟨allowed, inductionHypothesis now met following⟩
  | wait alarm next inductionHypothesis => exact inductionHypothesis abides
  | hang => trivial

/-- An activity that is cut off has done nothing that it should not do. -/
theorem before
    {activity : Activity σ α}
    (abides : activity.Abides contract goal state)
    (deadline : Nat) :
    (activity.before deadline).Abides contract
      (fun answer reached => ∀ result ∈ answer, goal result reached) state := by
  induction activity generalizing state with
  | done result =>
    rintro later relied _ ⟨⟩
    exact abides later relied
  | step effect next inductionHypothesis =>
    intro now met relied
    obtain ⟨allowed, following⟩ := abides now met relied
    exact ⟨allowed, inductionHypothesis now met following⟩
  | wait alarm next inductionHypothesis =>
    rw [Activity.before]
    split
    · exact inductionHypothesis abides
    · simp [Abides]
  | hang => simp [Activity.before, Abides]

theorem limited
    {activity : Activity σ α}
    (abides : activity.Abides contract goal state)
    (budget : Nat) :
    (activity.limited budget).Abides contract
      (fun answer reached => ∀ result ∈ answer, goal result reached) state :=
  fun now met relied =>
    ⟨contract.guarantee_refl met, (abides.interfere relied).before (Clock.ring now budget)⟩

/-- What the first component of a state allows and asks for, the whole does too. -/
theorem focus_first
    {activity : Activity σ α}
    {whole : Contract (σ × ρ)}
    {kept : ρ → Prop}
    {rest : ρ}
    (abides : activity.Abides contract goal state)
    (relies : ∀ before after, whole.rely before after → contract.rely before.1 after.1)
    (stands : ∀ before after, whole.rely before after → kept before.2 → kept after.2)
    (allowed : ∀ before after rest, contract.guarantee before after →
      whole.guarantee (before, rest) (after, rest))
    (initially : kept rest) :
    (activity.focus (Part.first σ ρ)).Abides whole
      (fun result reached => goal result reached.1 ∧ kept reached.2) (state, rest) := by
  induction activity generalizing state rest with
  | done result =>
    intro later relied
    exact ⟨abides later.1 (relies _ _ relied), stands _ _ relied initially⟩
  | step effect next inductionHypothesis =>
    intro now met relied
    obtain ⟨guaranteed, following⟩ := abides now met.1 (relies _ _ relied)
    exact ⟨allowed _ _ met.2 guaranteed,
      inductionHypothesis now met.1 following (stands _ _ relied initially)⟩
  | wait alarm next inductionHypothesis => exact inductionHypothesis abides initially
  | hang => trivial

/-- Who does not change what is seen of the state sees the same at the end. -/
theorem keeping
    {activity : Activity σ α}
    {view : σ → τ}
    (abides : activity.Abides (Contract.keeping view) goal state) :
    activity.Abides (Contract.keeping view)
      (fun result reached => goal result reached ∧ view state = view reached) state := by
  induction activity generalizing state with
  | done result => exact fun later relied => ⟨abides later relied, relied⟩
  | step effect next inductionHypothesis =>
    intro now met relied
    obtain ⟨allowed, following⟩ := abides now met relied
    have same : view state = view (effect now met) := Eq.trans relied allowed
    refine ⟨allowed, ?_⟩
    rw [same]
    exact inductionHypothesis now met following
  | wait alarm next inductionHypothesis => exact inductionHypothesis abides
  | hang => trivial

/-- By itself the activity keeps what its steps preserve. -/
theorem keeps
    {activity : Activity σ α}
    {safe invariant : σ → Prop}
    (abides : activity.Abides contract goal state)
    (preserved : ∀ before after, contract.guarantee before after → invariant before →
      invariant after)
    (safely : ∀ reached, invariant reached → safe reached)
    (initially : invariant state)
    (now : Nat) :
    activity.Keeps safe (fun result _ reached => goal result reached ∧ invariant reached) now
      state := by
  induction activity generalizing now state with
  | done result => exact ⟨abides state (contract.rely_refl state), initially⟩
  | step effect next inductionHypothesis =>
    obtain ⟨allowed, following⟩ := abides now state (contract.rely_refl state)
    have still := preserved _ _ allowed initially
    exact ⟨safely _ still, inductionHypothesis now state following still now⟩
  | wait alarm next inductionHypothesis => exact inductionHypothesis abides initially _
  | hang => trivial

end Abides

theorem respects_currentInstant : currentInstant.Respects contract state :=
  respects_observe _

theorem respects_sleep (duration : Nat) : (sleep duration).Respects contract state := by
  rw [sleep, Respects, abides_step_iff]
  intro now met relied
  refine ⟨contract.guarantee_refl met, ?_⟩
  split <;> exact fun _ _ => trivial

end Activity

/-! ## Groups -/

open Activity (Abides)

/-- An invariant of a crew that every advance preserves is kept by whatever conducts the crew. -/
theorem Activity.Conducts.keeps
    {read : γ → List α}
    {group : Activity σ γ}
    {members : List (Activity σ α)}
    {safe : σ → Prop}
    (invariant : Crew σ α → Prop)
    (conducts : group.Conducts read members)
    (preserved : ∀ crew later, crew.Advances later → invariant crew → invariant later)
    (safely : ∀ crew, invariant crew → safe crew.state)
    {now : Nat}
    {state : σ}
    (initially : invariant ⟨members, now, state⟩) :
    group.Keeps safe (fun result later reached =>
      invariant (Crew.finished (read result) later reached)) now state := by
  induction group generalizing members now state with
  | done result =>
    obtain rfl : members = _ := conducts
    exact initially
  | step effect next inductionHypothesis =>
    obtain ⟨position, following, acts, each⟩ := conducts
    have still := preserved _ _ (.act acts) initially
    exact ⟨safely _ still, inductionHypothesis now state (each now state) still⟩
  | wait alarm next inductionHypothesis =>
    obtain ⟨position, following, sleeps, idle, conducts⟩ := conducts
    exact inductionHypothesis conducts (preserved _ _ (.wake sleeps (Or.inr idle)) initially)
  | hang => trivial

/-- Forgetting the counter of alarms does not make an activity unsafe. -/
theorem Activity.keeps_unnumbered
    {activity : Activity (σ × Nat) α}
    {safe : σ → Prop}
    {goal : α → Nat → σ → Prop}
    {number now : Nat}
    {state : σ}
    (keeps : activity.Keeps (fun whole => safe whole.1)
      (fun result later whole => goal result later whole.1) now (state, number)) :
    (activity.unnumbered number).Keeps safe goal now state := by
  induction activity generalizing number now state with
  | done result => exact keeps
  | step effect next inductionHypothesis =>
    exact ⟨keeps.1, inductionHypothesis now (state, number) keeps.2⟩
  | wait alarm next inductionHypothesis => exact inductionHypothesis keeps
  | hang => trivial

/-- A group keeps the invariants of its crew. A large one is a queue, which goes through the orders
of the crew but stands still while an alarm is set. -/
theorem Crew.keeps_gathered
    {members : List (Activity σ α)}
    {safe : σ → Prop}
    (invariant : Crew σ α → Prop)
    (preserved : ∀ crew later, crew.Advances later → invariant crew → invariant later)
    (safely : ∀ crew, invariant crew → safe crew.state)
    {now : Nat}
    {state : σ}
    (initially : invariant ⟨members, now, state⟩) :
    (Activity.gathered members).Keeps safe (fun results later reached =>
      invariant (finished results later reached)) now state := by
  rw [Activity.gathered]
  split
  case isTrue small =>
    exact Activity.Conducts.keeps invariant (Activity.conducts_all members) preserved safely
      initially
  case isFalse large =>
    refine Activity.keeps_unnumbered ((Activity.Conducts.keeps
      (fun counted => ∃ plain, Counts plain counted ∧ invariant plain)
      (Activity.conducts_all (members.map .numbered)) ?_ ?_
      ⟨_, counts_numbered members now 0 state, initially⟩).mono ?_)
    · rintro counted later advances ⟨plain, counts, holds⟩
      obtain ⟨next, leads, counts⟩ := counts.advances advances
      refine ⟨next, counts, ?_⟩
      clear counts
      induction leads with
      | refl => exact holds
      | tail _ last inductionHypothesis => exact preserved _ _ last inductionHypothesis
    · rintro counted ⟨plain, counts, holds⟩
      rw [counts.sameState]
      exact safely plain holds
    · rintro results later whole ⟨plain, counts, holds⟩
      rwa [counts.finished] at holds

section Members

variable {contracts : κ → Contract σ} {keys : List κ} {safe : σ → Prop}

/-- In a safe state, each member of a crew respects the contract of its key. -/
structure Crew.Respecting (contracts : κ → Contract σ) (keys : List κ) (safe : σ → Prop)
    (crew : Crew σ α) : Prop where
  safely : safe crew.state
  respects : List.Forall₂ (fun key member => member.Respects (contracts key) crew.state) keys
    crew.members

variable (compatible : keys.Pairwise fun first second =>
    (contracts first).Compatible (contracts second))

include compatible

/-- A step of a member is one that each of the others can stand. -/
theorem Contract.rely_of_guarantee
    {position place : Nat}
    {mover other : κ}
    {before after : σ}
    (here : keys[position]? = some mover)
    (there : keys[place]? = some other)
    (apart : place ≠ position)
    (allowed : (contracts mover).guarantee before after) :
    (contracts other).rely before after := by
  obtain ⟨inside, rfl⟩ := List.getElem?_eq_some_iff.1 here
  obtain ⟨within, rfl⟩ := List.getElem?_eq_some_iff.1 there
  rcases Nat.lt_or_gt_of_ne apart with earlier | later
  · have together := List.pairwise_iff_getElem.1 compatible _ _ within inside earlier
    exact together.rightAllowed _ _ allowed
  · have together := List.pairwise_iff_getElem.1 compatible _ _ inside within later
    exact together.leftAllowed _ _ allowed

/-- A crew that respects its contracts goes on doing so, because what they guarantee never makes a
safe state unsafe. -/
theorem Crew.Respecting.advances
    {crew later : Crew σ α}
    (preserved : ∀ key ∈ keys, ∀ before after, (contracts key).guarantee before after →
      safe before → safe after)
    (advances : crew.Advances later)
    (respecting : crew.Respecting contracts keys safe) :
    later.Respecting contracts keys safe := by
  obtain ⟨safely, respects⟩ := respecting
  cases advances with
  | @act position effect next acts =>
    obtain ⟨key, found, abides, replace⟩ := exists_beside respects acts
    obtain ⟨inside, same⟩ := List.getElem?_eq_some_iff.1 found
    obtain ⟨allowed, following⟩ := abides crew.instant crew.state ((contracts key).rely_refl _)
    refine ⟨preserved key (List.mem_of_getElem? found) _ _ allowed safely, ?_⟩
    have others : List.Forall₂ _ (keys.set position key) _ :=
      replace following fun place one two apart there _ stands =>
        stands.interfere (Contract.rely_of_guarantee compatible found there apart allowed)
    rwa [← same, List.set_getElem_self] at others
  | @wake position alarm next sleeps rings =>
    obtain ⟨key, found, abides, replace⟩ := exists_beside respects sleeps
    obtain ⟨inside, same⟩ := List.getElem?_eq_some_iff.1 found
    refine ⟨safely, ?_⟩
    have others : List.Forall₂ _ (keys.set position key) (crew.members.set position next) :=
      replace abides fun _ _ _ _ _ _ stands => stands
    rwa [← same, List.set_getElem_self] at others

variable (contracts) in
/-- Side by side, members that respect contracts which go together keep the state safe. -/
theorem Activity.keeps_gathered
    {activity : κ → Activity σ α}
    (preserved : ∀ key ∈ keys, ∀ before after, (contracts key).guarantee before after →
      safe before → safe after)
    {now : Nat}
    {state : σ}
    (respects : ∀ key ∈ keys, (activity key).Respects (contracts key) state)
    (initially : safe state) :
    (gathered (keys.map activity)).Keeps safe (fun _ _ reached => safe reached) now state := by
  have respecting : Crew.Respecting contracts keys safe ⟨keys.map activity, now, state⟩ :=
    ⟨initially, List.forall₂_map_right_iff.2 (List.forall₂_same.2 respects)⟩
  exact (Crew.keeps_gathered (Crew.Respecting contracts keys safe)
    (fun _ _ advances => Crew.Respecting.advances compatible preserved advances)
    (fun _ => Crew.Respecting.safely) respecting).mono fun _ _ _ => Crew.Respecting.safely

end Members

end Fleet
