import Fleet.Memory.Provider
import Fleet.Proofs.Memory.Batch
import Fleet.Proofs.Memory.Booting
import Fleet.Proofs.Retry.Rounds
import Fleet.Service.BringUp

/-!
# Watching a node of an account in memory

Each node of a batch is watched by itself. A watcher changes nothing but the node that it polls, and
relies on the others to leave that node alone, so watchers of different nodes stay out of each
other's way. A watcher sees its node pending until the boot is over, and then sees how it ended.
-/

namespace Fleet.Service

open Memory

variable {σ S : Type} {place : Part σ Account} {client : Client}

/-- What the watcher of a node relies on, and what it does: only nodes change, and the node that is
watched is changed by its watcher alone. -/
def watching (place : Part σ Account) (id : NodeId) : Contract σ where
  rely before after := (place.view before).SameButNodes (place.view after) ∧
    (place.view after).nodes.find? id = (place.view before).nodes.find? id
  guarantee before after := (place.view before).SameButNodes (place.view after) ∧
    ∀ other, other ≠ id →
      (place.view after).nodes.find? other = (place.view before).nodes.find? other
  rely_refl _ := ⟨Account.SameButNodes.refl _, rfl⟩
  rely_trans _ _ _ early late := ⟨early.1.trans late.1, late.2.trans early.2⟩
  guarantee_refl _ := ⟨Account.SameButNodes.refl _, fun _ _ => rfl⟩

theorem compatible_watching
    {first second : NodeId}
    (different : first ≠ second) :
    (watching place first).Compatible (watching place second) :=
  ⟨fun _ _ guaranteed => ⟨guaranteed.1, guaranteed.2 second different.symm⟩,
    fun _ _ guaranteed => ⟨guaranteed.1, guaranteed.2 first different⟩⟩

/-- Watchers change nothing but nodes. -/
theorem sameButNodes_of_watching
    {ids : List NodeId}
    {before after : σ}
    (steps : Relation.ReflTransGen (Contract.all (ids.map (watching place))).guarantee before
      after) :
    (place.view before).SameButNodes (place.view after) := by
  induction steps with
  | refl => exact Account.SameButNodes.refl _
  | tail _ step inductionHypothesis =>
    rcases step with rfl | ⟨contract, member, guaranteed⟩
    · exact inductionHypothesis
    · obtain ⟨id, _, rfl⟩ := List.mem_map.1 member
      exact inductionHypothesis.trans guaranteed.1

/-- The account is as it was when the watch began, its nodes aside, and has a certain node. -/
structure Stands (place : Part σ Account) (account : Account) (id : NodeId) (node : AccountNode)
    (whole : σ) : Prop where
  same : account.SameButNodes (place.view whole)
  found : (place.view whole).nodes.find? id = some node

variable {account : Account} {id : NodeId} {node : AccountNode} {now : Nat} {whole : σ}

theorem Stands.stable
    {later : σ}
    (stands : Stands place account id node whole)
    (relied : (watching place id).rely whole later) :
    Stands place account id node later :=
  ⟨stands.same.trans relied.1, relied.2.trans stands.found⟩

/-- A look-up shows the node one poll further, and only the node moves. -/
theorem attains_get
    (lawful : place.Lawful)
    (admitted : account.admits client = true)
    (stands : Stands place account id node whole) :
    ((Memory.provider place client).get id).Attains (watching place id)
      (fun answer later reached => later = now ∧
        answer = .ok (account.shown (afterPoll node)) ∧
        Stands place account id (afterPoll node) reached)
      now whole := by
  intro met relied
  have standing := stands.stable relied
  have admittedNow : (place.view met).admits client = true :=
    (standing.same.admits client).trans admitted
  have polled : Account.authorized client (Account.get id) (place.view met) =
      (.ok (account.shown (afterPoll node)), (place.view met).polling id) := by
    rw [Account.authorized_of_admits admittedNow, Account.get_of_found standing.found,
      standing.same.shown]
  have view : place.view (place.update
      (Account.authorized client (Account.get id) (place.view met)).2 met) =
        (place.view met).polling id := by
    rw [lawful.view_update, polled]
  refine ⟨⟨?_, fun other different => ?_⟩, fun later further => ⟨rfl, ?_, ?_⟩⟩
  · show (place.view met).SameButNodes (place.view (place.update _ met))
    rw [view]
    exact Account.SameButNodes.polling _ id
  · show (place.view (place.update _ met)).nodes.find? other = _
    rw [view, Account.find?_polling, if_neg different.symm]
  · show (Account.authorized client (Account.get id) (place.view met)).1.mapError _ = _
    rw [polled]
    rfl
  · refine Stands.stable ⟨?_, ?_⟩ further
    · show account.SameButNodes (place.view (place.update _ met))
      rw [view]
      exact standing.same.trans (Account.SameButNodes.polling _ id)
    · show (place.view (place.update _ met)).nodes.find? id = _
      rw [view, Account.find?_polling, if_pos rfl, standing.found]
      rfl

/-! ## The rounds of a watch -/

/-- What a watcher remembers after a number of looks at a node. -/
def sighted (account : Account) (node : AccountNode) (looks : Nat) : Sighting where
  previous := (afterPoll^[looks] node).record.state
  last := match looks with
    | 0 => none
    | _ + 1 => some (.ok (account.shown (afterPoll^[looks] node)))

/-- A look shows what the next poll makes of the node, and no move is ever forbidden. -/
theorem note_sighted
    (account : Account)
    (node : AccountNode)
    (looks : Nat) :
    (sighted account node looks).note (.ok (account.shown (afterPoll (afterPoll^[looks] node)))) =
      ((afterPoll^[looks + 1] node).record.state.isSettled,
        sighted account node (looks + 1)) := by
  rw [Function.iterate_succ_apply']
  simp only [Sighting.note, sighted, Account.state_shown, mayBecome_afterPoll, if_true,
    Function.iterate_succ_apply']

/-- A pending node is seen pending in each round of its boot, and settled in the round after it. -/
theorem rounds_of_pending
    (lawful : place.Lawful)
    (admitted : account.admits client = true)
    (id : NodeId)
    (pending : node.record.state = .pending) :
    PollPolicy.Rounds (watching place id) (look (Memory.provider place client) id) node.pollsLeft
      (sighted account node) fun looks => Stands place account id (afterPoll^[looks] node) where
  stable _ _ _ relied stands := stands.stable relied
  looks looks now whole upTo stands := by
    refine Activity.Attains.map ((attains_get lawful admitted stands).mono ?_)
    rintro answer later reached ⟨rfl, rfl, standing⟩
    refine ⟨rfl, ?_, ?_⟩
    · rw [note_sighted]
      congr 1
      rcases Nat.lt_or_eq_of_le upTo with before | rfl
      · rw [iterate_afterPoll pending before, decide_eq_false (Nat.ne_of_lt before)]
        simp only [pending]
        rfl
      · rw [iterate_afterPoll_settles pending, decide_eq_true rfl]
        simp only [AccountNode.booted, AccountNode.bootEnd]
        cases node.failsToBoot <;> rfl
    · rw [Function.iterate_succ_apply']
      exact standing

/-! ## The end of a watch -/

/-- What becomes of a node whose boot ends in time. -/
def verdict (account : Account) (node : AccountNode) : Except NodeFailure Node :=
  if node.failsToBoot then .error (.settled node.record.id .error)
  else .ok (account.shown node.booted)

/-- The record of a newborn node keeps its rules when the node runs, with or without the
credentials. -/
theorem checkInvariants_booted
    {before : Account}
    {tag : String}
    {template : Template}
    {location : LocationId}
    (newborn : before.Newborn tag template location node)
    (account : Account) :
    (account.shown node.booted).checkInvariants = .ok () := by
  obtain ⟨index, key, keyed, record⟩ := newborn.record
  have complete :
      Credentials.isComplete { account := Account.loginAccount, key := key } = true := by
    have named : Text.isBlankText Account.loginAccount = false := by decide
    simp [Credentials.isComplete, named, keyed]
  unfold Account.shown
  split <;>
    simp [Node.checkInvariants, AccountNode.booted, record, Account.newRecord, Node.hasAddress,
      complete]

/-- The look after the boot shows the verdict on the node. -/
theorem runningNode_settled
    {before : Account}
    {tag : String}
    {template : Template}
    {location : LocationId}
    (newborn : before.Newborn tag template location node)
    (pending : node.record.state = .pending)
    (account : Account)
    (settings : ServiceSettings) :
    runningNode settings ((sighted account node (node.pollsLeft + 1)).outcome id true) =
      verdict account node := by
  simp only [sighted, Sighting.outcome, iterate_afterPoll_settles pending, if_true,
    Account.state_shown, Account.id_shown]
  cases fails : node.failsToBoot with
  | true => simp [AccountNode.booted, AccountNode.bootEnd, verdict, fails, runningNode]
  | false =>
    have running : node.booted.record.state = .running := by
      simp [AccountNode.booted, AccountNode.bootEnd, fails]
    simp only [running, if_true, checkInvariants_booted newborn, runningNode, verdict, fails,
      Bool.false_eq_true, if_false]

theorem runningNode_late
    (pending : node.record.state = .pending)
    (account : Account)
    (settings : ServiceSettings)
    {looks : Nat}
    (looked : 0 < looks)
    (few : looks ≤ node.pollsLeft) :
    runningNode settings ((sighted account node looks).outcome id false) =
      .error (.timeout node.record.id .pending settings.runningTimeout) := by
  obtain ⟨looks, rfl⟩ := Nat.exists_eq_succ_of_ne_zero (Nat.ne_of_gt looked)
  simp only [sighted, Sighting.outcome, Bool.false_eq_true, if_false, Account.state_shown,
    Account.id_shown, Nat.succ_eq_add_one, iterate_afterPoll pending few, pending, runningNode]

/-- Without a port to wait for and a script to run, a node is up as soon as it runs. -/
theorem bringUp_eq
    {service : Service σ S}
    {options : TemplateOptions}
    (noPort : options.portWait = none)
    (noScript : options.script = none)
    (created : Node) :
    service.bringUp options created =
      ((settlePolicy service.settings).follow (look service.provider created.id)
        { previous := created.state }).bind fun answer =>
          .done (runningNode service.settings (answer.2.outcome created.id answer.1)) := by
  simp only [bringUp, awaitSettled, requirePort, requireScript, noPort, noScript,
    Activity.bind_eq_bind, Activity.pure_eq_done, Activity.bind_assoc, Activity.bind]
  congr 1
  funext answer
  cases runningNode service.settings (answer.2.outcome created.id answer.1) <;> rfl

section BringUp

variable {service : Service σ S} (drives : service.provider = Memory.provider place client)
  (lawful : place.Lawful) (admitted : account.admits client = true)
  {before : Account} {tag : String} {template : Template} {location : LocationId}
  (newborn : before.Newborn tag template location node)
  (noPort : template.options.portWait = none) (noScript : template.options.script = none)
  (positive : 0 < service.settings.pollPeriod)
  (wholePeriod : Duration.millisecond ∣ service.settings.pollPeriod)
  (wholeNow : Duration.millisecond ∣ now) {state : σ}
  (stands : Stands place account node.record.id node state)

include drives lawful admitted newborn noPort noScript positive wholePeriod wholeNow stands

/-- A newborn node whose boot falls within the time allowed is brought up exactly at its end. -/
theorem attains_bringUp_in_time
    (few : node.pollsLeft < PollPolicy.unboundedEvaluations)
    (covered : (settlePolicy service.settings).Covers now
      (node.pollsLeft * Clock.slept service.settings.pollPeriod)) :
    (service.bringUp template.options node.record).Attains (watching place node.record.id)
      (fun result later _ => result = verdict account node ∧
        later = now + node.pollsLeft * Clock.slept service.settings.pollPeriod)
      now state := by
  have pending := newborn.pending
  have rounds := rounds_of_pending lawful admitted node.record.id pending
  rw [bringUp_eq noPort noScript, drives]
  refine Activity.Attains.map ((rounds.attains_follow_in_time
    (settlePolicy service.settings) positive wholePeriod wholeNow stands few covered).mono ?_)
  rintro answer later reached ⟨rfl, rfl, _⟩
  exact ⟨runningNode_settled newborn pending account service.settings, rfl⟩

/-- A newborn node whose boot takes longer than the time allowed is given up while it is pending. -/
theorem attains_bringUp_late
    (late : ¬ (settlePolicy service.settings).Covers now
      (node.pollsLeft * Clock.slept service.settings.pollPeriod)) :
    (service.bringUp template.options node.record).Attains (watching place node.record.id)
      (fun result _ _ => result =
        .error (.timeout node.record.id .pending service.settings.runningTimeout))
      now state := by
  have pending := newborn.pending
  have rounds := rounds_of_pending lawful admitted node.record.id pending
  rw [bringUp_eq noPort noScript, drives]
  refine Activity.Attains.map ((rounds.attains_follow_late
    (settlePolicy service.settings) positive wholePeriod wholeNow stands late).mono ?_)
  rintro answer later reached ⟨looks, looked, upTo, rfl, _⟩
  exact runningNode_late pending account service.settings looked upTo

end BringUp

end Fleet.Service
