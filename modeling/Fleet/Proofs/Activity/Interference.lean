import Fleet.Activity.Deadline
import Fleet.Proofs.Activity.Instant
import Mathlib.Logic.Relation

/-!
# Activities among others

An activity that shares its state with others attains its goal if it may rely on what the others do,
and the others can count on it in turn. A contract says what others may do to the state between the
steps of an activity, and what each of its own steps does. Activities whose contracts go together
keep their promises side by side: each member of a group attains its own goal, and the group
finishes with the last of them.
-/

namespace Fleet

/-- What an activity relies on, and what it guarantees to others. -/
structure Contract (σ : Type) where
  /-- What others may do to the state. -/
  rely : σ → σ → Prop
  /-- What a step of the activity does to the state. -/
  guarantee : σ → σ → Prop
  rely_refl : ∀ state, rely state state
  rely_trans : ∀ first second third, rely first second → rely second third → rely first third
  guarantee_refl : ∀ state, guarantee state state

namespace Contract

variable {σ κ : Type}

/-- Neither side does what the other one does not allow for. -/
structure Compatible (left right : Contract σ) : Prop where
  leftAllowed : ∀ before after, left.guarantee before after → right.rely before after
  rightAllowed : ∀ before after, right.guarantee before after → left.rely before after

/-- A contract of a member of a group that has another one: the member stands at least what the
group stands, and does no more than the group does. -/
structure Within (member group : Contract σ) : Prop where
  rely : ∀ before after, group.rely before after → member.rely before after
  guarantee : ∀ before after, member.guarantee before after → group.guarantee before after

/-- The contract of a group whose members have certain contracts. -/
def all (contracts : List (Contract σ)) : Contract σ where
  rely before after := ∀ contract ∈ contracts, contract.rely before after
  guarantee before after :=
    before = after ∨ ∃ contract ∈ contracts, contract.guarantee before after
  rely_refl state contract _ := contract.rely_refl state
  rely_trans first second third early late contract member :=
    contract.rely_trans first second third (early contract member) (late contract member)
  guarantee_refl _ := Or.inl rfl

theorem within_all_head
    (contract : Contract σ)
    (rest : List (Contract σ)) :
    contract.Within (all (contract :: rest)) :=
  ⟨fun _ _ relied => relied contract List.mem_cons_self,
    fun _ _ guaranteed => Or.inr ⟨contract, List.mem_cons_self, guaranteed⟩⟩

theorem within_all_tail
    (contract : Contract σ)
    (rest : List (Contract σ)) :
    (all rest).Within (all (contract :: rest)) where
  rely _ _ relied other member := relied other (List.mem_cons_of_mem _ member)
  guarantee _ _ guaranteed := guaranteed.imp_right fun ⟨other, member, done⟩ =>
    ⟨other, List.mem_cons_of_mem _ member, done⟩

theorem compatible_all
    {contract : Contract σ}
    {others : List (Contract σ)}
    (compatible : ∀ other ∈ others, contract.Compatible other) :
    contract.Compatible (all others) where
  leftAllowed before after guaranteed other member :=
    (compatible other member).leftAllowed before after guaranteed
  rightAllowed before after guaranteed := by
    rcases guaranteed with rfl | ⟨other, member, done⟩
    · exact contract.rely_refl before
    · exact (compatible other member).rightAllowed before after done

/-- The contract over a state with a counter, about which it says nothing. -/
def counted (contract : Contract σ) : Contract (σ × Nat) where
  rely before after := contract.rely before.1 after.1
  guarantee before after := contract.guarantee before.1 after.1
  rely_refl state := contract.rely_refl state.1
  rely_trans first second third := contract.rely_trans first.1 second.1 third.1
  guarantee_refl state := contract.guarantee_refl state.1

theorem Compatible.counted
    {left right : Contract σ}
    (compatible : left.Compatible right) :
    left.counted.Compatible right.counted :=
  ⟨fun before after => compatible.leftAllowed before.1 after.1,
    fun before after => compatible.rightAllowed before.1 after.1⟩

end Contract

namespace Activity

variable {σ α β κ : Type} {contract left right group : Contract σ} {now : Nat} {state : σ}

/-- Under its contract the activity finishes with its goal, which says something of the result, the
instant and the state, however others use what is left to them. -/
def Attains (contract : Contract σ) (goal : α → Nat → σ → Prop) :
    Activity σ α → Nat → σ → Prop
  | done result, now, state => ∀ later, contract.rely state later → goal result now later
  | step effect next, now, state => ∀ met, contract.rely state met →
    contract.guarantee met (effect now met) ∧
      (next now met).Attains contract goal now (effect now met)
  | wait alarm next, now, state => next.Attains contract goal (max now alarm.instant) state
  | hang, _, _ => False

variable {goal : α → Nat → σ → Prop} {other : β → Nat → σ → Prop}

theorem attains_step_iff
    {effect : Nat → σ → σ}
    {next : Nat → σ → Activity σ α} :
    (step effect next).Attains contract goal now state ↔
      ∀ met, contract.rely state met → contract.guarantee met (effect now met) ∧
        (next now met).Attains contract goal now (effect now met) := Iff.rfl

/-- What others do to the state does not keep an activity from its goal. -/
theorem Attains.interfere
    {activity : Activity σ α}
    {later : σ}
    (attains : activity.Attains contract goal now state)
    (relied : contract.rely state later) :
    activity.Attains contract goal now later := by
  induction activity generalizing now with
  | done result =>
    intro last further
    exact attains last (contract.rely_trans _ _ _ relied further)
  | step effect next _ =>
    intro met further
    exact attains met (contract.rely_trans _ _ _ relied further)
  | wait alarm next inductionHypothesis => exact inductionHypothesis attains
  | hang => exact attains

/-- A sleeper may be looked at later, as long as its alarm has not rung. -/
theorem Attains.delay
    {alarm : Alarm}
    {next : Activity σ α}
    {later : Nat}
    (attains : (wait alarm next).Attains contract goal now state)
    (onwards : now ≤ later)
    (notRung : later ≤ max now alarm.instant) :
    (wait alarm next).Attains contract goal later state := by
  have same : max later alarm.instant = max now alarm.instant := by omega
  simpa only [Attains, same] using attains

/-- What follows an activity may take its goal for granted, and goes on taking it for granted while
others act. -/
theorem Attains.andThen
    {activity : Activity σ α}
    {continuation : α → Activity σ β}
    (attains : activity.Attains contract goal now state)
    (onwards : ∀ result later reached,
      (∀ met, contract.rely reached met → goal result later met) →
        (continuation result).Attains contract other later reached) :
    (activity.bind continuation).Attains contract other now state := by
  induction activity generalizing now state with
  | done result => exact onwards result now state attains
  | step effect next inductionHypothesis =>
    intro met relied
    obtain ⟨guaranteed, following⟩ := attains met relied
    exact ⟨guaranteed, inductionHypothesis _ _ following⟩
  | wait alarm next inductionHypothesis => exact inductionHypothesis attains
  | hang => exact attains

theorem Attains.mono
    {weaker : α → Nat → σ → Prop}
    {activity : Activity σ α}
    (attains : activity.Attains contract goal now state)
    (implies : ∀ result later reached, goal result later reached →
      weaker result later reached) :
    activity.Attains contract weaker now state := by
  rw [← bind_done activity]
  exact attains.andThen fun result later reached attained met relied =>
    implies result later met (attained met relied)

/-- A sequence attains what its second part attains from wherever the first part may end. -/
theorem Attains.bind
    {activity : Activity σ α}
    {continuation : α → Activity σ β}
    (attains : activity.Attains contract
      (fun result later reached => (continuation result).Attains contract other later reached)
      now state) :
    (activity.bind continuation).Attains contract other now state :=
  attains.andThen fun _ _ reached attained => attained reached (contract.rely_refl reached)

/-- A function of the result changes nothing else. -/
theorem Attains.map
    {activity : Activity σ α}
    {function : α → β}
    (attains : activity.Attains contract (fun result => other (function result)) now state) :
    (activity.bind fun result => done (function result)).Attains contract other now state :=
  attains.andThen fun _ _ _ attained => attained

theorem attains_observe
    {view : Nat → σ → α}
    (seen : ∀ met, contract.rely state met → ∀ later, contract.rely met later →
      goal (view now met) now later) :
    (observe view).Attains contract goal now state :=
  fun met relied => ⟨contract.guarantee_refl met, seen met relied⟩

/-- A sleep attains what holds at its end, whatever the others have done by then. -/
theorem attains_sleep
    {duration : Nat}
    {goal : Unit → Nat → σ → Prop}
    (awake : ∀ later, contract.rely state later →
      goal () (max now (Clock.wake now duration)) later) :
    (sleep duration).Attains contract goal now state := by
  rw [sleep, attains_step_iff]
  intro met relied
  refine ⟨contract.guarantee_refl met, ?_⟩
  have rested : ∀ later, contract.rely met later →
      goal () (max now (Clock.wake now duration)) later := fun later further =>
    awake later (contract.rely_trans _ _ _ relied further)
  split
  · rename_i rung
    rwa [Nat.max_eq_left rung] at rested
  · exact rested

/-- By itself the activity finishes with its goal, by steps that it guarantees. -/
theorem run_of_attains
    {activity : Activity σ α}
    (attains : activity.Attains contract goal now state) :
    ∃ result later reached, activity.run now state = some (result, later, reached) ∧
      goal result later reached ∧ Relation.ReflTransGen contract.guarantee state reached := by
  induction activity generalizing now state with
  | done result =>
    exact ⟨result, now, state, rfl, attains state (contract.rely_refl state), .refl⟩
  | step effect next inductionHypothesis =>
    obtain ⟨guaranteed, onwards⟩ := attains state (contract.rely_refl state)
    obtain ⟨result, later, reached, finished, held, steps⟩ := inductionHypothesis _ _ onwards
    exact ⟨result, later, reached, finished, held, .head guaranteed steps⟩
  | wait alarm next inductionHypothesis => exact inductionHypothesis attains
  | hang => exact attains.elim

/-- What is attained by a deadline is not cut off by it. -/
theorem Attains.before
    {activity : Activity σ α}
    {deadline : Nat}
    (attains : activity.Attains contract goal now state)
    (inTime : ∀ result later reached, goal result later reached → later ≤ deadline) :
    (activity.before deadline).Attains contract
      (fun answer later reached => ∃ result, answer = some result ∧ goal result later reached)
      now state := by
  induction activity generalizing now state with
  | done result => exact fun later relied => ⟨result, rfl, attains later relied⟩
  | step effect next inductionHypothesis =>
    intro met relied
    obtain ⟨guaranteed, onwards⟩ := attains met relied
    exact ⟨guaranteed, inductionHypothesis _ _ onwards⟩
  | wait alarm next inductionHypothesis =>
    have onwards : next.Attains contract goal (max now alarm.instant) state := attains
    obtain ⟨result, later, reached, finished, held, _⟩ := run_of_attains onwards
    have awake := le_of_run finished
    have rings : alarm.instant ≤ deadline :=
      Nat.le_trans (Nat.le_max_right _ _) (Nat.le_trans awake (inTime _ _ _ held))
    rw [Activity.before, if_pos rings]
    exact inductionHypothesis onwards
  | hang => exact attains.elim

/-- What is attained at once is not cut off by any limit. -/
theorem Attains.limited
    {activity : Activity σ α}
    (budget : Nat)
    (attains : activity.Attains contract
      (fun result later reached => later = now ∧ goal result later reached) now state) :
    (activity.limited budget).Attains contract
      (fun answer later reached => ∃ result, answer = some result ∧
        later = now ∧ goal result later reached) now state := by
  intro met relied
  refine ⟨contract.guarantee_refl met, (attains.interfere relied).before ?_⟩
  rintro result later reached ⟨rfl, _⟩
  exact Clock.le_ring _ _

/-! ## Side by side -/

/-- Both goals are attained, and the later of the two instants is the end. -/
def Both
    (goal : α → Nat → σ → Prop)
    (other : β → Nat → σ → Prop)
    (pair : α × β)
    (later : Nat)
    (reached : σ) :
    Prop :=
  ∃ first second, later = max first second ∧ goal pair.1 first reached ∧
    other pair.2 second reached

/-- While one side goes on, what the other one has attained stays attained. -/
theorem attains_beside_finished
    {activity : Activity σ β}
    {attained : σ → Prop}
    {ended : Nat}
    (within : right.Within group)
    (stands : ∀ before after, group.rely before after → left.rely before after)
    (allows : ∀ before after, right.guarantee before after → left.rely before after)
    (earlier : ended ≤ now)
    (finished : ∀ later, left.rely state later → attained later)
    (attains : activity.Attains right other now state) :
    activity.Attains group
      (fun value later reached => ended ≤ later ∧ attained reached ∧
        other value later reached)
      now state := by
  induction activity generalizing now state with
  | done value =>
    intro later relied
    exact ⟨earlier, finished later (stands _ _ relied), attains later (within.rely _ _ relied)⟩
  | step effect next inductionHypothesis =>
    intro met relied
    obtain ⟨guaranteed, onwards⟩ := attains met (within.rely _ _ relied)
    refine ⟨within.guarantee _ _ guaranteed, inductionHypothesis _ _ earlier ?_ onwards⟩
    intro later further
    have stood := left.rely_trans _ _ _ (stands _ _ relied) (allows _ _ guaranteed)
    exact finished later (left.rely_trans _ _ _ stood further)
  | wait alarm next inductionHypothesis =>
    exact inductionHypothesis (Nat.le_trans earlier (Nat.le_max_left _ _)) finished attains
  | hang => exact attains

section Pair

variable (leftWithin : left.Within group) (rightWithin : right.Within group)
  (compatible : left.Compatible right)

include leftWithin rightWithin compatible

theorem attains_right_alone
    {activity : Activity σ β}
    {result : α}
    {ended : Nat}
    (earlier : ended ≤ now)
    (finished : ∀ later, left.rely state later → goal result ended later)
    (attains : activity.Attains right other now state) :
    (activity.bind fun value => done (result, value)).Attains group (Both goal other) now
      state := by
  refine Attains.map ((attains_beside_finished rightWithin leftWithin.rely compatible.rightAllowed
    earlier finished attains).mono ?_)
  rintro value later reached ⟨before, attained, held⟩
  exact ⟨ended, later, (Nat.max_eq_right before).symm, attained, held⟩

theorem attains_left_alone
    {activity : Activity σ α}
    {result : β}
    {ended : Nat}
    (earlier : ended ≤ now)
    (finished : ∀ later, right.rely state later → other result ended later)
    (attains : activity.Attains left goal now state) :
    (activity.bind fun value => done (value, result)).Attains group (Both goal other) now
      state := by
  refine Attains.map ((attains_beside_finished leftWithin rightWithin.rely compatible.leftAllowed
    earlier finished attains).mono ?_)
  rintro value later reached ⟨before, attained, held⟩
  exact ⟨later, ended, (Nat.max_eq_left before).symm, held, attained⟩

/-- While the left side sleeps, the right side goes on by itself. The alarm that rings first goes
first, and the other side is still asleep then. -/
theorem attains_besideSleeper
    {alarm : Alarm}
    {next : Activity σ α}
    {resume : Activity σ β → Activity σ (α × β)}
    {leftOnly : β → Activity σ (α × β)}
    {stalled : Activity σ (α × β)}
    (resumed : ∀ remaining now state, next.Attains left goal now state →
      remaining.Attains right other now state →
      (resume remaining).Attains group (Both goal other) now state)
    (alone : ∀ value now state, (wait alarm next).Attains left goal now state →
      (∀ later, right.rely state later → other value now later) →
      (leftOnly value).Attains group (Both goal other) now state)
    (activity : Activity σ β)
    (sleeping : (wait alarm next).Attains left goal now state)
    (attains : activity.Attains right other now state) :
    (besideSleeper alarm resume leftOnly stalled activity).Attains group (Both goal other) now
      state := by
  induction activity generalizing now state with
  | done value => exact alone value now state sleeping attains
  | step effect rest inductionHypothesis =>
    intro met relied
    obtain ⟨guaranteed, onwards⟩ := attains met (rightWithin.rely _ _ relied)
    refine ⟨rightWithin.guarantee _ _ guaranteed, inductionHypothesis _ _ ?_ onwards⟩
    exact (sleeping.interfere (leftWithin.rely _ _ relied)).interfere
      (compatible.rightAllowed _ _ guaranteed)
  | wait second rest inductionHypothesis =>
    rw [besideSleeper]
    split
    · rename_i due
      have first : alarm.instant ≤ second.instant := by
        simp only [Alarm.isDueBy, Bool.or_eq_true, decide_eq_true_eq, Bool.and_eq_true,
          beq_iff_eq] at due
        omega
      exact resumed _ _ _ sleeping (attains.delay (Nat.le_max_left _ _) (by omega))
    · rename_i notDue
      have first : second.instant ≤ alarm.instant := by
        simp only [Alarm.isDueBy, Bool.or_eq_true, decide_eq_true_eq, Bool.and_eq_true,
          beq_iff_eq, not_or] at notDue
        omega
      exact inductionHypothesis (sleeping.delay (Nat.le_max_left _ _) (by omega)) attains
  | hang => exact attains.elim

/-- Two activities side by side attain both goals. -/
theorem attains_together
    {first : Activity σ α}
    {second : Activity σ β}
    (attainsFirst : first.Attains left goal now state)
    (attainsSecond : second.Attains right other now state) :
    (first.together second).Attains group (Both goal other) now state := by
  induction first generalizing second now state with
  | done result =>
    rw [together_done]
    exact attains_right_alone leftWithin rightWithin compatible (Nat.le_refl now) attainsFirst
      attainsSecond
  | step effect next inductionHypothesis =>
    intro met relied
    obtain ⟨guaranteed, onwards⟩ := attainsFirst met (leftWithin.rely _ _ relied)
    refine ⟨leftWithin.guarantee _ _ guaranteed, inductionHypothesis _ _ onwards ?_⟩
    exact (attainsSecond.interfere (rightWithin.rely _ _ relied)).interfere
      (compatible.leftAllowed _ _ guaranteed)
  | wait alarm next inductionHypothesis =>
    refine attains_besideSleeper leftWithin rightWithin compatible ?_ ?_ second attainsFirst
      attainsSecond
    · intro remaining now state onwards attainsRemaining
      exact inductionHypothesis onwards attainsRemaining
    · intro value now state sleeping finished
      exact attains_left_alone leftWithin rightWithin compatible (Nat.le_max_left _ _) finished
        sleeping
  | hang => exact attainsFirst.elim

end Pair

/-! ## Groups -/

/-- Each member of a group has attained its goal at some instant, and the last of these is the end
of the group, which started at an instant too. -/
inductive AllAttained (goal : κ → α → Nat → σ → Prop) (started : Nat) :
    List κ → List α → Nat → σ → Prop where
  | nil (reached : σ) : AllAttained goal started [] [] started reached
  | cons {key : κ} {keys : List κ} {result : α} {results : List α}
      {ended later : Nat} {reached : σ}
      (first : goal key result ended reached)
      (rest : AllAttained goal started keys results later reached) :
      AllAttained goal started (key :: keys) (result :: results) (max ended later) reached

/-- When each goal determines the result, the results are known. -/
theorem AllAttained.results_eq
    {goal : κ → α → Nat → σ → Prop}
    {keys : List κ}
    {results : List α}
    {started later : Nat}
    {reached : σ}
    {function : κ → α}
    (attained : AllAttained goal started keys results later reached)
    (determined : ∀ key result ended reached, goal key result ended reached →
      result = function key) :
    results = keys.map function := by
  induction attained with
  | nil reached => rfl
  | cons first rest inductionHypothesis =>
    rw [determined _ _ _ _ first, inductionHypothesis, List.map_cons]

/-- When all members finish at one instant, the group finishes then, unless it is empty. -/
theorem AllAttained.later_eq
    {goal : κ → α → Nat → σ → Prop}
    {keys : List κ}
    {results : List α}
    {started later ended : Nat}
    {reached : σ}
    (attained : AllAttained goal started keys results later reached)
    (onwards : started ≤ ended)
    (determined : ∀ key result later reached, goal key result later reached → later = ended) :
    later = if keys = [] then started else ended := by
  induction attained with
  | nil reached => rfl
  | cons first rest inductionHypothesis =>
    rw [determined _ _ _ _ first, inductionHypothesis, if_neg (List.cons_ne_nil _ _)]
    split
    · exact Nat.max_eq_left onwards
    · exact Nat.max_self ended

section Members

variable {keys : List κ} {contracts : κ → Contract σ}
  {goals : κ → α → Nat → σ → Prop}
  {activity : κ → Activity σ α}

/-- What each of several activities attains in the presence of the others, they attain side by side.
-/
theorem attains_all
    (compatible : keys.Pairwise fun first second =>
      (contracts first).Compatible (contracts second))
    (attains : ∀ key ∈ keys, (activity key).Attains (contracts key) (goals key) now state) :
    (all (keys.map activity)).Attains (Contract.all (keys.map contracts))
      (AllAttained goals now keys) now state := by
  induction keys with
  | nil => exact fun later _ => .nil later
  | cons key rest inductionHypothesis =>
    obtain ⟨apart, restApart⟩ := List.pairwise_cons.1 compatible
    obtain ⟨first, others⟩ := List.forall_mem_cons.1 attains
    have separate : (contracts key).Compatible (Contract.all (rest.map contracts)) := by
      refine Contract.compatible_all fun contract member => ?_
      obtain ⟨other, listed, rfl⟩ := List.mem_map.1 member
      exact apart other listed
    have both := attains_together (Contract.within_all_head _ _) (Contract.within_all_tail _ _)
      separate first (inductionHypothesis restApart others)
    refine Attains.map (both.mono ?_)
    rintro ⟨result, results⟩ later reached ⟨ended, last, rfl, attained, others⟩
    exact .cons attained others

/-- Numbering alarms makes no difference to what an activity attains. -/
theorem Attains.numbered
    {activity : Activity σ α}
    (attains : activity.Attains contract goal now state)
    (number : Nat) :
    activity.numbered.Attains contract.counted
      (fun result later reached => goal result later reached.1) now (state, number) := by
  induction activity generalizing now state number with
  | done result => exact fun later relied => attains later.1 relied
  | step effect next inductionHypothesis =>
    intro met relied
    obtain ⟨guaranteed, onwards⟩ := attains met.1 relied
    exact ⟨guaranteed, inductionHypothesis _ _ onwards met.2⟩
  | wait alarm next inductionHypothesis =>
    intro met relied
    refine ⟨contract.guarantee_refl met.1, ?_⟩
    have resumed := inductionHypothesis (Attains.interfere attains relied) (met.2 + 1)
    by_cases rung : alarm.instant ≤ now
    · simp only [if_pos rung]
      rwa [Nat.max_eq_left rung] at resumed
    · simp only [if_neg rung]
      exact resumed
  | hang => exact attains

theorem AllAttained.withoutCounter
    {results : List α}
    {started later : Nat}
    {reached : σ × Nat}
    (attained : AllAttained (fun key result later reached => goals key result later reached.1)
      started keys results later reached) :
    AllAttained goals started keys results later reached.1 := by
  induction attained with
  | nil reached => exact .nil reached.1
  | cons first rest inductionHypothesis => exact .cons first inductionHypothesis

/-- What members of a group attain in each other's presence, the group attains by itself; whatever
it does to the state, some member guarantees. A large group attains it over the state with its
counter of alarms. -/
theorem run_gathered
    (compatible : keys.Pairwise fun first second =>
      (contracts first).Compatible (contracts second))
    (attains : ∀ key ∈ keys, (activity key).Attains (contracts key) (goals key) now state) :
    ∃ results later reached,
      (gathered (keys.map activity)).run now state = some (results, later, reached) ∧
      AllAttained goals now keys results later reached ∧
      Relation.ReflTransGen (Contract.all (keys.map contracts)).guarantee state reached := by
  rw [gathered]
  split
  · exact run_of_attains (attains_all compatible attains)
  · have eachNumbered : ∀ key ∈ keys, ((fun key => (activity key).numbered) key).Attains
        (contracts key).counted (fun result later reached => goals key result later reached.1) now
        (state, 0) := fun key member => (attains key member).numbered 0
    have numbered := attains_all (compatible.imp fun apart => apart.counted) eachNumbered
    obtain ⟨results, later, reached, finished, attained, steps⟩ := run_of_attains numbered
    refine ⟨results, later, reached.1, ?_, attained.withoutCounter, ?_⟩
    · rw [queued, List.map_map, run_unnumbered]
      exact congrArg (Option.map _) finished
    · refine steps.lift Prod.fst ?_
      rintro before after (rfl | ⟨contract, member, guaranteed⟩)
      · exact Or.inl rfl
      · obtain ⟨key, listed, rfl⟩ := List.mem_map.1 member
        exact Or.inr ⟨contracts key, List.mem_map_of_mem listed, guaranteed⟩

end Members

end Activity

end Fleet
