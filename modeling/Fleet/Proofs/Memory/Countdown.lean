import Fleet.Proofs.Memory.Refusal
import Fleet.Proofs.Memory.Remembered

/-!
# The countdown of a boot

A boot begins with the creation of a node or with an accepted reboot, and takes as many polls as the
account was set to at that moment. Every look-up of the node and every listing that it belongs to is
a poll, whoever asks. As long as nobody reboots or destroys the node, the polls are all that counts:
whatever else happens to the account, the node is where that number of polls takes it. So the report
that a poll gives can be read off the number of the polls before it.
-/

namespace Fleet.Memory

/-! ## The node alone -/

theorem afterPoll_of_settled
    {node : AccountNode}
    (settled : node.record.state ≠ .pending) :
    afterPoll node = node :=
  if_pos settled

/-- The polls of a boot report a pending node until they are used up, and the end of the boot from
then on. -/
theorem state_iterate_afterPoll
    {node : AccountNode}
    (pending : node.record.state = .pending)
    (polls : Nat) :
    (afterPoll^[polls + 1] node).record.state =
      if polls < node.pollsLeft then .pending else node.bootEnd := by
  by_cases early : polls < node.pollsLeft
  · rw [iterate_afterPoll pending early, if_pos early]
    exact pending
  · have further : polls + 1 = (polls - node.pollsLeft) + (node.pollsLeft + 1) := by omega
    have settled : afterPoll node.booted = node.booted := by
      apply afterPoll_of_settled
      show node.bootEnd ≠ .pending
      unfold AccountNode.bootEnd
      split <;> simp
    rw [if_neg early, further, Function.iterate_add_apply, iterate_afterPoll_settles pending,
      Function.iterate_fixed settled]
    rfl

namespace Account

variable {account : Account}

/-! ## Polls and reports -/

/-- Whether an event polls the node of a record: a client that is admitted looks it up, or lists all
nodes or those with its tag. -/
def polls (account : Account) (record : Node) : Event → Bool
  | .request client (.get id) => account.admits client && id == record.id
  | .request client (.list none) => account.admits client
  | .request client (.list (some tag)) => account.admits client && tag == record.tag
  | _ => false

/-- The states in which the answer to an event reports a node. -/
def reports (account : Account) (id : NodeId) : Event → List NodeState
  | .request client request =>
    match account.reply client request with
    | .ok answer => (answer.records.filter fun record => record.id == id).map Node.state
    | .error _ => []
  | .arrangement _ => []

/-- Whether an event reboots or destroys a node. A destruction is none while the node lingers. -/
def disturbs (account : Account) (id : NodeId) : Event → Bool
  | .request client (.reboot other) => other == id && (account.reply client (.reboot other)).isOk
  | .request client (.destroy other) =>
    other == id && (account.reply client (.destroy other)).isOk && !account.lingering.contains id
  | _ => false

/-- Nobody reboots or destroys the node in the course of a history. -/
def Spares (account : Account) (id : NodeId) : List Event → Prop
  | [] => True
  | event :: later => account.disturbs id event = false ∧ (account.next event).Spares id later

theorem polls_congr
    {before after : Account}
    {first second : Node}
    (admits : after.admits = before.admits)
    (id : second.id = first.id)
    (tag : second.tag = first.tag) :
    after.polls second = before.polls first := by
  funext event
  unfold polls
  rw [admits, id, tag]

theorem polls_of_not_admits
    {client : Client}
    (stranger : ¬ account.admits client = true)
    (record : Node)
    (request : Request) :
    account.polls record (.request client request) = false := by
  unfold polls
  split <;> simp_all

/-! ## One event -/

/-- A listing polls exactly the nodes that it lists. -/
theorem Numbered.polls_list_iff
    (numbered : account.Numbered)
    {client : Client}
    (admitted : account.admits client = true)
    {id : NodeId}
    {node : AccountNode}
    (found : account.nodes.find? id = some node)
    (tag : Option String) :
    account.polls node.record (.request client (.list tag)) = true ↔
      id ∈ account.listed tag := by
  cases tag with
  | none =>
    simp only [polls, admitted, true_iff]
    exact (Table.mem_keys_iff _ _).2 ⟨node, found⟩
  | some tag =>
    simp only [polls, admitted, Bool.true_and, beq_iff_eq, numbered.mem_listed_tag_iff, found,
      Option.some.injEq, exists_eq_left']
    exact eq_comm

theorem Numbered.polls_get_iff
    (numbered : account.Numbered)
    {client : Client}
    (admitted : account.admits client = true)
    {id : NodeId}
    {node : AccountNode}
    (found : account.nodes.find? id = some node)
    (other : NodeId) :
    account.polls node.record (.request client (.get other)) = true ↔ id ∈ [other] := by
  rw [polls, admitted, Bool.true_and, numbered.named id node found, beq_iff_eq,
    List.mem_singleton, eq_comm]

theorem find?_reboot_of_ne
    {id other : NodeId}
    (different : other ≠ id)
    (account : Account) :
    (reboot other account).2.nodes.find? id = account.nodes.find? id := by
  rcases reboot_cases other account with
    ⟨_, missing⟩ | ⟨_, _, _, unfit⟩ | ⟨_, _, _, rebooted⟩
  · rw [missing]
  · rw [unfit]
  · rw [rebooted]
    exact Table.find?_insert_of_ne _ _ different

/-- A node stays as it is when another one is destroyed. -/
theorem find?_destroy_of_ne
    {id other : NodeId}
    (different : other ≠ id)
    (account : Account) :
    (destroy other account).2.nodes.find? id = account.nodes.find? id := by
  rcases destroy_cases other account with
    ⟨_, _, faulty⟩ | ⟨_, _, ignored⟩ | ⟨_, _, _, missing⟩ | ⟨_, _, _, _, _, done⟩ |
    ⟨_, _, _, _, _, destroyed⟩
  · rw [faulty]
  · rw [ignored]
  · rw [missing]
  · rw [done]
  · rw [destroyed]
    exact Table.find?_insert_of_ne _ _ different

theorem nodes_destroy_of_lingering
    {id : NodeId}
    (lingers : account.lingering.contains id = true) :
    (destroy id account).2.nodes = account.nodes := by
  unfold destroy
  split
  · rfl
  · rw [if_pos lingers]

theorem nodes_next_of_spared_reboot
    {client : Client}
    {id : NodeId}
    (spared : account.disturbs id (.request client (.reboot id)) = false) :
    (account.next (.request client (.reboot id))).nodes = account.nodes := by
  cases answered : account.reply client (.reboot id) with
  | ok answer => simp [disturbs, answered, Except.isOk, Except.toBool] at spared
  | error error =>
    rw [next_of_refused answered]
    rfl

/-- A destruction that leaves a node in peace has changed no node at all. -/
theorem nodes_next_of_spared_destroy
    {client : Client}
    {id : NodeId}
    (spared : account.disturbs id (.request client (.destroy id)) = false) :
    (account.next (.request client (.destroy id))).nodes = account.nodes := by
  cases answered : account.reply client (.destroy id) with
  | ok answer =>
    have lingers : account.lingering.contains id = true := by
      simpa [disturbs, answered, Except.isOk, Except.toBool] using spared
    by_cases admitted : account.admits client = true
    · rw [next_of_admits admitted]
      exact nodes_destroy_of_lingering lingers
    · rw [next_of_not_admits admitted]
  | error error =>
    rw [next_of_refused answered]
    rfl

theorem Numbered.find?_create
    (numbered : account.Numbered)
    (tag : String)
    (template : Template)
    {id : NodeId}
    {node : AccountNode}
    (found : account.nodes.find? id = some node) :
    (create tag template account).2.nodes.find? id = some node := by
  rcases create_outcome tag template account with ⟨_, same⟩ | ⟨location, created⟩
  · rw [same, found]
  · rw [created]
    exact numbered.find?_created_of_found tag template location found

/-- An event that neither reboots nor destroys a node polls it or leaves it as it is. -/
theorem Numbered.find?_next
    (numbered : account.Numbered)
    {event : Event}
    {id : NodeId}
    {node : AccountNode}
    (found : account.nodes.find? id = some node)
    (spared : account.disturbs id event = false) :
    (account.next event).nodes.find? id =
      some (if account.polls node.record event then afterPoll node else node) := by
  cases event with
  | arrangement arrangement => cases arrangement <;> exact found
  | request client request =>
    by_cases admitted : account.admits client = true
    · cases request with
      | create tag template =>
        rw [next_of_admits admitted]
        exact numbered.find?_create tag template found
      | list tag =>
        have listing := Alters.foldl_polling (account.nodup_listed tag) account
        rw [next_list admitted, listing.nodes, found]
        by_cases listed : id ∈ account.listed tag
        · rw [if_pos listed, if_pos ((numbered.polls_list_iff admitted found tag).2 listed)]
          rfl
        · rw [if_neg listed, if_neg (listed ∘ (numbered.polls_list_iff admitted found tag).1)]
      | get other =>
        rw [next_get admitted, find?_polling, found]
        simp only [polls, admitted, Bool.true_and, beq_iff_eq, numbered.named id node found]
        split <;> rfl
      | reboot other =>
        by_cases same : other = id
        · subst same
          rw [nodes_next_of_spared_reboot spared]
          exact found
        · rw [next_of_admits admitted]
          exact (find?_reboot_of_ne same account).trans found
      | destroy other =>
        by_cases same : other = id
        · subst same
          rw [nodes_next_of_spared_destroy spared]
          exact found
        · rw [next_of_admits admitted]
          exact (find?_destroy_of_ne same account).trans found
      | readCatalog =>
        rw [next_of_admits admitted]
        exact found
    · rw [next_of_not_admits admitted, polls_of_not_admits admitted]
      exact found

/-! ## Reports -/

theorem reports_of_answered
    {client : Client}
    {request : Request}
    {answer : Answer}
    (answered : account.reply client request = .ok answer)
    (id : NodeId) :
    account.reports id (.request client request) =
      (answer.records.filter fun record => record.id == id).map Node.state := by
  simp only [reports, answered]

theorem reports_of_refused
    {client : Client}
    {request : Request}
    {error : AccountError}
    (refused : account.reply client request = .error error)
    (id : NodeId) :
    account.reports id (.request client request) = [] := by
  simp only [reports, refused]

/-- Nothing is reported of a node that is not shown. -/
theorem reports_eq_nil
    {client : Client}
    {request : Request}
    {id : NodeId}
    (others : ∀ answer, account.reply client request = .ok answer →
      ∀ record ∈ answer.records, record.id ≠ id) :
    account.reports id (.request client request) = [] := by
  cases answered : account.reply client request with
  | error error => exact reports_of_refused answered id
  | ok answer =>
    have none : (answer.records.filter fun record => record.id == id) = [] := by
      simpa using others answer answered
    rw [reports_of_answered answered, none]
    rfl

theorem Numbered.id_of_pollView
    (numbered : account.Numbered)
    {id : NodeId}
    {record : Node}
    (seen : account.pollView id = some record) :
    record.id = id := by
  rcases Option.map_eq_some_iff.1 seen with ⟨node, found, rfl⟩
  rw [id_shown, (continues_afterPoll node).id_eq]
  exact numbered.named id node found

/-- An answer that shows polled nodes of different names reports each of them once. -/
theorem Numbered.reports_of_shown
    (numbered : account.Numbered)
    {client : Client}
    {request : Request}
    {answer : Answer}
    (answered : account.reply client request = .ok answer)
    {ids : List NodeId}
    (distinct : ids.Nodup)
    (shown : answer.records = ids.filterMap account.pollView)
    {id : NodeId}
    {node : AccountNode}
    (found : account.nodes.find? id = some node) :
    account.reports id (.request client request) =
      if id ∈ ids then [(afterPoll node).record.state] else [] := by
  have named : (ids.filterMap account.pollView).filter (fun record => record.id == id) =
      (ids.filter (· == id)).filterMap account.pollView := by
    rw [List.filter_filterMap, List.filterMap_filter]
    apply List.filterMap_congr
    intro other _
    cases seen : account.pollView other with
    | none => simp
    | some record => simp [Option.filter, numbered.id_of_pollView seen]
  rw [reports_of_answered answered, shown, named, List.filter_beq, distinct.count]
  split
  · simp [pollView, found]
  · rfl

theorem reports_eq_nil_of_unrecorded
    {client : Client}
    {request : Request}
    {id : NodeId}
    (unrecorded : ∀ answer, account.reply client request = .ok answer → answer.records = []) :
    account.reports id (.request client request) = [] := by
  apply reports_eq_nil
  intro answer answered record returned
  rw [unrecorded answer answered] at returned
  cases returned

/-- A creation reports nothing of the nodes that were there. -/
theorem Numbered.reports_create
    (numbered : account.Numbered)
    {id : NodeId}
    {node : AccountNode}
    (found : account.nodes.find? id = some node)
    (client : Client)
    (tag : String)
    (template : Template) :
    account.reports id (.request client (.create tag template)) = [] := by
  apply reports_eq_nil
  intro answer answered record returned
  rcases created_of_answered answered with ⟨location, rfl, _⟩
  cases List.mem_singleton.1 returned
  rintro rfl
  rw [numbered.fresh_of_created answered] at found
  cases found

/-- A look reports the node that is looked up, as it is after its poll. -/
theorem Numbered.reports_get
    (numbered : account.Numbered)
    {client : Client}
    (admitted : account.admits client = true)
    {id : NodeId}
    {node : AccountNode}
    (found : account.nodes.find? id = some node)
    (other : NodeId) :
    account.reports id (.request client (.get other)) =
      if id ∈ [other] then [(afterPoll node).record.state] else [] := by
  have answered := reply_get admitted other
  cases seen : account.pollView other with
  | none =>
    rw [seen] at answered
    rw [reports_of_refused answered, if_neg]
    intro same
    cases List.mem_singleton.1 same
    rw [pollView, found] at seen
    cases seen
  | some record =>
    rw [seen] at answered
    refine numbered.reports_of_shown answered (List.nodup_singleton other) ?_ found
    simp [Answer.records, seen]

/-- An event that polls a node reports it once, as the poll leaves it, and no other event reports
it. -/
theorem Numbered.reports_eq
    (numbered : account.Numbered)
    {id : NodeId}
    {node : AccountNode}
    (found : account.nodes.find? id = some node)
    (event : Event) :
    account.reports id event =
      if account.polls node.record event then [(afterPoll node).record.state] else [] := by
  cases event with
  | arrangement arrangement => rfl
  | request client request =>
    by_cases admitted : account.admits client = true
    · cases request with
      | create tag template => exact numbered.reports_create found client tag template
      | list tag =>
        rw [numbered.reports_of_shown (reply_list admitted tag) (account.nodup_listed tag) rfl
          found]
        simp only [numbered.polls_list_iff admitted found tag]
      | get other =>
        rw [numbered.reports_get admitted found]
        simp only [numbered.polls_get_iff admitted found other]
      | reboot other =>
        apply reports_eq_nil_of_unrecorded
        intro answer answered
        rw [reply_of_admits admitted] at answered
        exact Answer.records_of_accepted answered
      | destroy other =>
        apply reports_eq_nil_of_unrecorded
        intro answer answered
        rw [reply_of_admits admitted] at answered
        exact Answer.records_of_accepted answered
      | readCatalog =>
        apply reports_eq_nil_of_unrecorded
        intro answer answered
        rw [reply_of_admits admitted] at answered
        cases answered
        rfl
    · rw [polls_of_not_admits admitted, reports_of_refused (reply_of_not_admits admitted request)]
      rfl

/-! ## Histories -/

theorem continues_iterate_afterPoll
    (node : AccountNode)
    (polls : Nat) :
    Continues node (afterPoll^[polls] node) := by
  induction polls with
  | zero => exact Continues.refl node
  | succ polls inductionHypothesis =>
    rw [Function.iterate_succ_apply']
    exact inductionHypothesis.trans (continues_afterPoll _)

/-- A node that is spared by a history is where its polls take it. A poll leaves the name and the
tag, so the same events poll the node from then on. -/
theorem Numbered.find?_after
    (numbered : account.Numbered)
    {id : NodeId}
    {node : AccountNode}
    (found : account.nodes.find? id = some node)
    {history : List Event}
    (spared : account.Spares id history) :
    (account.after history).nodes.find? id =
      some (afterPoll^[history.countP (account.polls node.record)] node) := by
  induction history generalizing account node with
  | nil => exact found
  | cons event later inductionHypothesis =>
    have here := numbered.find?_next found spared.1
    have admits := admits_next account event
    rw [after_cons, List.countP_cons]
    by_cases polled : account.polls node.record event = true
    · rw [if_pos polled] at here
      have continues := continues_afterPoll node
      have onwards := inductionHypothesis (numbered.next event) here spared.2
      rw [polls_congr admits continues.id_eq continues.tag_eq] at onwards
      rw [onwards, if_pos polled, Function.iterate_succ_apply]
    · rw [if_neg polled] at here
      have onwards := inductionHypothesis (numbered.next event) here spared.2
      rw [polls_congr admits rfl rfl] at onwards
      rw [onwards, if_neg polled, Nat.add_zero]

/-! ## Boots -/

/-- A boot of a node begins at an event, and will end in a state. -/
inductive Boots (account : Account) : Event → Node → NodeState → Prop where
  | created {client : Client} {tag : String} {template : Template} {record : Node}
      (answered : account.reply client (.create tag template) = .ok (.node record)) :
    Boots account (.request client (.create tag template)) record
      (if 0 < account.failingBoots then .error else .running)
  | rebooted {client : Client} {id : NodeId} {node : AccountNode}
      (found : account.nodes.find? id = some node)
      (accepted : account.reply client (.reboot id) = .ok .accepted) :
    Boots account (.request client (.reboot id)) node.record .running

structure Starts (account : Account) (record : Node) (settled : NodeState) (node : AccountNode) :
    Prop where
  id : node.record.id = record.id
  tag : node.record.tag = record.tag
  pending : node.record.state = .pending
  pollsLeft : node.pollsLeft = account.bootPolls
  bootEnd : node.bootEnd = settled

/-- At the event at which its boot begins, a node is pending with all the polls of the boot to come.
-/
theorem Boots.starts
    {event : Event}
    {record : Node}
    {settled : NodeState}
    (boots : account.Boots event record settled)
    (numbered : account.Numbered) :
    ∃ node, (account.next event).nodes.find? record.id = some node ∧
      account.Starts record settled node := by
  cases boots with
  | created answered =>
    rename_i client tag template
    rcases created_of_answered answered with ⟨location, same, stored⟩
    cases same
    rw [stored]
    refine ⟨account.newNode tag template location, ?_, rfl, rfl, rfl, rfl, ?_⟩
    · exact (find?_created account tag template location _).trans (if_pos rfl)
    · simp [AccountNode.bootEnd, newNode]
  | rebooted found accepted =>
    rename_i client id node
    have admitted := admits_of_answered accepted
    rw [reply_of_admits admitted, Request.operation, Operation.andThen] at accepted
    rw [next_of_admits admitted, Request.operation, Operation.andThen]
    rcases reboot_cases id account with
      ⟨_, missing⟩ | ⟨_, _, _, unfit⟩ | ⟨other, held, _, rebooted⟩
    · rw [missing] at accepted
      cases accepted
    · rw [unfit] at accepted
      cases accepted
    · cases found.symm.trans held
      rw [rebooted, numbered.named id node found]
      exact ⟨_, Table.find?_insert_self _ _ _, rfl, rfl, rfl, rfl, rfl⟩

/-- From the creation or the reboot of a node on, and as long as nobody reboots or destroys it, an
event that polls the node reports it exactly once: pending if fewer polls than the boot takes came
before, and otherwise in the state in which the boot ends. The boot takes what the account was set
to when it began, and it ends in an error only after a creation whose boot was arranged to fail.
Nothing but the polls of this node counts. -/
theorem reported_pending_until_polled_out
    (reachable : account.Reachable)
    {event : Event}
    {record : Node}
    {settled : NodeState}
    (boots : account.Boots event record settled)
    {history : List Event}
    (spared : (account.next event).Spares record.id history)
    (poll : Event) :
    ((account.next event).after history).reports record.id poll =
      if account.polls record poll then
        [if history.countP (account.polls record) < account.bootPolls then .pending else settled]
      else [] := by
  obtain ⟨node, found, starts⟩ := boots.starts reachable.numbered
  have numbered := reachable.numbered.next event
  have met := numbered.find?_after found spared
  have asBefore : ((account.next event).after history).polls
      (afterPoll^[history.countP ((account.next event).polls node.record)] node).record =
        account.polls record := by
    have continues := continues_iterate_afterPoll node
      (history.countP ((account.next event).polls node.record))
    rw [polls_congr (admits_after _ _) continues.id_eq continues.tag_eq,
      polls_congr (admits_next account event) starts.id starts.tag]
  have counted : (account.next event).polls node.record = account.polls record :=
    polls_congr (admits_next account event) starts.id starts.tag
  rw [(numbered.after history).reports_eq met, asBefore, counted,
    ← Function.iterate_succ_apply' afterPoll, state_iterate_afterPoll starts.pending,
    starts.pollsLeft, starts.bootEnd]

/-! ## An instance

A node whose boot takes two polls, on an account that two clients use at a time. -/

def owner : Client := { identity := "owner", secret := "secret" }

def zoneOrder : Template where
  image := freeImage "image" "Image" "1"
  size := standardSize "size" 1 1024 20
  location := { id := "zone", scope := .zone, description := "Zone", parent := none }
  options := {}

/-- The owner's account, at which a boot takes two polls. -/
def ownersAccount : Account :=
  (opened defaultCatalog owner.identity owner.secret { label := 1 }).after
    [.arrangement (.bootPolls 2)]

/-- The setting is changed, a node is created beside the first one, and both are polled; a stranger
is refused, and so is the reboot of a node that has not booted yet. -/
def busyHistory : List Event :=
  [.arrangement (.bootPolls 9), .request owner (.create "db" zoneOrder),
    .request owner (.get "stub-1"), .request owner (.list (some "db")),
    .request { identity := "owner", secret := "guess" } (.list none),
    .request owner (.reboot "stub-1"), .request owner (.list (some "web"))]

/-- The third poll reports that the node runs. -/
theorem third_poll_reports_running :
    ∃ record, ownersAccount.Boots (.request owner (.create "web" zoneOrder)) record .running ∧
      (ownersAccount.next (.request owner (.create "web" zoneOrder))).Spares record.id
        busyHistory ∧
      ((ownersAccount.next (.request owner (.create "web" zoneOrder))).after busyHistory).reports
        record.id (.request owner (.list none)) = [.running] := by
  have reachable : ownersAccount.Reachable := ⟨_, _, _, _, _, rfl⟩
  obtain ⟨record, id, tag, boots⟩ : ∃ record, record.id = "stub-1" ∧ record.tag = "web" ∧
      ownersAccount.Boots (.request owner (.create "web" zoneOrder)) record .running :=
    ⟨_, rfl, rfl, .created rfl⟩
  have spared : (ownersAccount.next (.request owner (.create "web" zoneOrder))).Spares record.id
      busyHistory := by
    rw [id]
    refine ⟨?_, ?_, ?_, ?_, ?_, ?_, ?_, trivial⟩ <;> decide +kernel
  have polls : busyHistory.countP (ownersAccount.polls record) = 2 := by
    simp only [busyHistory, List.countP_cons, List.countP_nil, polls, id, tag]
    rfl
  refine ⟨record, boots, spared, ?_⟩
  rw [reported_pending_until_polled_out reachable boots spared, polls]
  rfl

end Account

end Fleet.Memory
