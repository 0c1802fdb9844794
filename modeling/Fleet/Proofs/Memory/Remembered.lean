import Fleet.Proofs.Memory.Batch
import Fleet.Proofs.Memory.Demolition

/-!
# Records that clients remember

A client that keeps a record may come back with it after any history. Of the node nothing but its
state has changed since, and the states it went through form a chain of permitted moves. Among the
states that an account gives its nodes the permitted moves compose, so the remembered state leads to
the present one in a single permitted move.
-/

namespace Fleet

/-- A node in one state is later found in the same state, or in a known state to which it may move
at once. -/
def NodeState.Leads (earlier later : NodeState) : Prop :=
  later = earlier ∨ (earlier.mayBecome later = true ∧ later ≠ .unknown)

namespace NodeState.Leads

variable {first second third : NodeState}

theorem mayBecome (leads : first.Leads second) : first.mayBecome second = true := by
  rcases leads with rfl | ⟨permitted, _⟩
  · exact mayBecome_self _
  · exact permitted

/-- A later sight of a later sight is one of the first. An unknown state in the middle would let a
failed node run again, and so it does not count as one. -/
theorem trans
    (early : first.Leads second)
    (late : second.Leads third) :
    first.Leads third := by
  rcases late with rfl | ⟨permitted, known⟩
  · exact early
  · rcases early with rfl | ⟨allowed, reported⟩
    · exact Or.inr ⟨permitted, known⟩
    · apply Or.inr
      cases first <;> cases second <;> cases third <;>
        simp_all [NodeState.mayBecome]

end NodeState.Leads

namespace Memory

/-- The records in an answer. -/
def Answer.records : Answer → List Node
  | .node record => [record]
  | .nodes records => records
  | .accepted | .catalog _ => []

theorem Answer.records_of_accepted
    {result : Except AccountError Unit}
    {answer : Answer}
    (answered : (result.map fun _ => Answer.accepted) = .ok answer) :
    answer.records = [] := by
  cases result with
  | error error => cases answered
  | ok done =>
    cases answered
    rfl

/-- What a later sight of a node makes of an earlier one by the moves of an account. -/
structure Succeeds (earlier later : AccountNode) : Prop where
  continues : Continues earlier later
  leads : earlier.record.state.Leads later.record.state

namespace Succeeds

theorem refl (node : AccountNode) : Succeeds node node :=
  ⟨Continues.refl node, Or.inl rfl⟩

theorem trans
    {first second third : AccountNode}
    (early : Succeeds first second)
    (late : Succeeds second third) :
    Succeeds first third :=
  ⟨early.continues.trans late.continues, early.leads.trans late.leads⟩

theorem afterPoll (node : AccountNode) : Succeeds node (afterPoll node) := by
  refine ⟨continues_afterPoll node, ?_⟩
  unfold Memory.afterPoll
  split
  · exact Or.inl rfl
  · next booting =>
    have pending : node.record.state = .pending := Decidable.of_not_not booting
    split
    · exact Or.inl rfl
    · apply Or.inr
      rw [pending]
      cases node.failsToBoot <;> exact ⟨rfl, nofun⟩

/-- A node that is rebooted while it runs succeeds itself. -/
theorem rebooted
    {node : AccountNode}
    (running : node.record.state = .running)
    (polls : Nat) :
    Succeeds node
      { record := { node.record with state := .pending }, pollsLeft := polls,
        failsToBoot := false } := by
  constructor
  · refine ⟨rfl, ?_⟩
    intro final
    rw [running] at final
    cases final
  · apply Or.inr
    rw [running]
    exact ⟨rfl, nofun⟩

theorem ended (node : AccountNode) : Succeeds node node.ended := by
  refine ⟨continues_ended node, Or.inr ⟨?_, nofun⟩⟩
  show node.record.state.mayBecome .terminated = true
  cases node.record.state <;> rfl

end Succeeds

namespace Account

/-- Every node of an account outlasts what happens to it. -/
def Outlasts (before after : Account) : Prop :=
  ∀ id node, before.nodes.find? id = some node →
    ∃ later, after.nodes.find? id = some later ∧ Succeeds node later

namespace Outlasts

theorem of_nodes_eq
    {before after : Account}
    (same : after.nodes = before.nodes) :
    Outlasts before after := by
  intro id node found
  exact ⟨node, same ▸ found, Succeeds.refl node⟩

theorem trans
    {first second third : Account}
    (early : Outlasts first second)
    (late : Outlasts second third) :
    Outlasts first third := by
  intro id node found
  rcases early id node found with ⟨middle, foundMiddle, succeeds⟩
  rcases late id middle foundMiddle with ⟨later, foundLater, succeedsLater⟩
  exact ⟨later, foundLater, succeeds.trans succeedsLater⟩

theorem of_alters
    {ids : List NodeId}
    {change : NodeId → AccountNode → AccountNode}
    {before after : Account}
    (alters : Alters ids change before after)
    (succeeds : ∀ id node, Succeeds node (change id node)) :
    Outlasts before after := by
  intro id node found
  rw [alters.nodes, found]
  split
  · exact ⟨change id node, rfl, succeeds id node⟩
  · exact ⟨node, rfl, Succeeds.refl node⟩

/-- Nodes outlast it when one of them is replaced by what succeeds it. -/
theorem of_insert
    {account : Account}
    {id : NodeId}
    {node later : AccountNode}
    (found : account.nodes.find? id = some node)
    (succeeds : Succeeds node later) :
    Outlasts account { account with nodes := account.nodes.insert id later } := by
  intro other held foundHeld
  by_cases same : id = other
  · subst same
    rw [found] at foundHeld
    cases foundHeld
    exact ⟨later, Table.find?_insert_self _ _ _, succeeds⟩
  · refine ⟨held, ?_, Succeeds.refl held⟩
    rw [Table.find?_insert_of_ne _ _ same, foundHeld]

end Outlasts

/-! ## Events -/

/-- A creation leaves the nodes alone, or it stores a new one and answers with its record. -/
theorem create_outcome
    (tag : String)
    (template : Template)
    (account : Account) :
    ((∃ error, (create tag template account).1 = .error error) ∧
      (create tag template account).2.nodes = account.nodes) ∨
    ∃ location, create tag template account =
      (.ok (account.newNode tag template location).record,
        account.created tag template location) := by
  by_cases failing : 0 < account.failingCreates
  · rw [create_of_failing failing]
    exact Or.inl ⟨⟨_, rfl⟩, rfl⟩
  · cases placed : account.placement template.location with
    | error error =>
      apply Or.inl
      unfold create
      simp only [if_neg failing, placed]
      exact ⟨⟨error, rfl⟩, trivial⟩
    | ok location =>
      by_cases room : account.lastIndex + 1 ≤ lastHost
      · exact Or.inr ⟨location, create_of_free (Nat.eq_zero_of_not_pos failing) placed room⟩
      · have exhausted : lastHost < account.nextIndex := by
          simp only [nextIndex, lastHost, Text.largest32] at room ⊢
          omega
        apply Or.inl
        unfold create
        simp only [if_neg failing, placed, if_pos exhausted]
        exact ⟨⟨_, rfl⟩, trivial⟩

/-- Whoever is answered to a creation is told of the node that it has stored. -/
theorem created_of_answered
    {account : Account}
    {client : Client}
    {tag : String}
    {template : Template}
    {answer : Answer}
    (answered : account.reply client (.create tag template) = .ok answer) :
    ∃ location, answer = .node (account.newNode tag template location).record ∧
      account.next (.request client (.create tag template)) =
        account.created tag template location := by
  have admitted := admits_of_answered answered
  rw [reply_of_admits admitted, Request.operation, Operation.andThen] at answered
  rw [next_of_admits admitted, Request.operation, Operation.andThen]
  rcases create_outcome tag template account with
    ⟨⟨error, refused⟩, _⟩ | ⟨location, created⟩
  · rw [refused] at answered
    cases answered
  · rw [created] at answered ⊢
    cases answered
    exact ⟨location, rfl, rfl⟩

/-- A node is created under a name that no node had. -/
theorem Numbered.fresh_of_created
    {account : Account}
    (numbered : account.Numbered)
    {client : Client}
    {tag : String}
    {template : Template}
    {record : Node}
    (answered : account.reply client (.create tag template) = .ok (.node record)) :
    account.nodes.find? record.id = none := by
  rcases created_of_answered answered with ⟨location, same, _⟩
  cases same
  exact numbered.fresh (Nat.lt_succ_self _)

theorem Numbered.outlasts_create
    {account : Account}
    (numbered : account.Numbered)
    (tag : String)
    (template : Template) :
    Outlasts account (create tag template account).2 := by
  rcases create_outcome tag template account with ⟨_, same⟩ | ⟨location, created⟩
  · exact Outlasts.of_nodes_eq same
  · intro id node found
    rw [created]
    exact ⟨node, numbered.find?_created_of_found tag template location found,
      Succeeds.refl node⟩

theorem outlasts_list
    (tag : Option String)
    (account : Account) :
    Outlasts account (list tag account).2 := by
  rw [list_eq]
  exact Outlasts.of_alters (Alters.foldl_polling (account.nodup_listed tag) account)
    fun _ => Succeeds.afterPoll

theorem outlasts_get
    (id : NodeId)
    (account : Account) :
    Outlasts account (get id account).2 := by
  rw [get_eq]
  exact Outlasts.of_alters (Alters.polling account id) fun _ => Succeeds.afterPoll

theorem outlasts_reboot
    (id : NodeId)
    (account : Account) :
    Outlasts account (reboot id account).2 := by
  rcases reboot_cases id account with
    ⟨_, missing⟩ | ⟨_, _, _, refused⟩ | ⟨node, found, running, rebooted⟩
  · rw [missing]
    exact Outlasts.of_nodes_eq rfl
  · rw [refused]
    exact Outlasts.of_nodes_eq rfl
  · rw [rebooted]
    exact Outlasts.of_insert found (Succeeds.rebooted running _)

/-- Nodes outlast a destruction, be it their own. -/
theorem outlasts_destroy
    (id : NodeId)
    (account : Account) :
    Outlasts account (destroy id account).2 := by
  rcases destroy_cases id account with
    ⟨_, _, refused⟩ | ⟨_, _, ignored⟩ | ⟨_, _, _, missing⟩ | ⟨_, _, _, _, _, done⟩ |
    ⟨_, _, node, found, _, destroyed⟩
  · rw [refused]
    exact Outlasts.of_nodes_eq rfl
  · rw [ignored]
    exact Outlasts.of_nodes_eq rfl
  · rw [missing]
    exact Outlasts.of_nodes_eq rfl
  · rw [done]
    exact Outlasts.of_nodes_eq rfl
  · rw [destroyed]
    exact Outlasts.of_insert found (Succeeds.ended node)

/-- Nodes outlast whatever happens next. -/
theorem Numbered.outlasts_next
    {account : Account}
    (numbered : account.Numbered)
    (event : Event) :
    Outlasts account (account.next event) := by
  cases event with
  | arrangement arrangement => cases arrangement <;> exact Outlasts.of_nodes_eq rfl
  | request client request =>
    by_cases admitted : account.admits client = true
    · rw [next_of_admits admitted]
      cases request with
      | create tag template => exact numbered.outlasts_create tag template
      | list tag => exact outlasts_list tag account
      | get id => exact outlasts_get id account
      | reboot id => exact outlasts_reboot id account
      | destroy id => exact outlasts_destroy id account
      | readCatalog => exact Outlasts.of_nodes_eq rfl
    · rw [next_of_not_admits admitted]
      exact Outlasts.of_nodes_eq rfl

theorem Numbered.outlasts_after
    {account : Account}
    (numbered : account.Numbered)
    (history : List Event) :
    Outlasts account (account.after history) := by
  induction history generalizing account with
  | nil => exact Outlasts.of_nodes_eq rfl
  | cons event rest inductionHypothesis =>
    exact (numbered.outlasts_next event).trans (inductionHypothesis (numbered.next event))

/-! ## Remembered records -/

/-- A record that was once shown of a node: it agrees with the node in all that never changes, and
its state leads to the node's. -/
structure Recalls (record : Node) (node : AccountNode) : Prop where
  id : node.record.id = record.id
  tag : node.record.tag = record.tag
  image : node.record.image = record.image
  location : node.record.location = record.location
  state : record.state.Leads node.record.state

theorem recalls_record (node : AccountNode) : Recalls node.record node :=
  ⟨rfl, rfl, rfl, rfl, Or.inl rfl⟩

theorem recalls_shown
    (account : Account)
    (node : AccountNode) :
    Recalls (account.shown node) node := by
  unfold shown
  split
  · exact ⟨rfl, rfl, rfl, rfl, Or.inl rfl⟩
  · exact recalls_record node

/-- A record that recalls a node recalls what succeeds it as well. -/
theorem Recalls.succeeds
    {record : Node}
    {node later : AccountNode}
    (recalls : Recalls record node)
    (succeeds : Succeeds node later) :
    Recalls record later := by
  have kept := succeeds.continues.record
  constructor
  · rw [kept]
    exact recalls.id
  · rw [kept]
    exact recalls.tag
  · rw [kept]
    exact recalls.image
  · rw [kept]
    exact recalls.location
  · exact recalls.state.trans succeeds.leads

/-- The account has the node that a record was shown of. -/
def Remembers (account : Account) (record : Node) : Prop :=
  ∃ node, account.nodes.find? record.id = some node ∧ Recalls record node

theorem Remembers.outlasts
    {before after : Account}
    {record : Node}
    (remembers : before.Remembers record)
    (outlasts : Outlasts before after) :
    after.Remembers record := by
  rcases remembers with ⟨node, found, recalls⟩
  rcases outlasts record.id node found with ⟨later, foundLater, succeeds⟩
  exact ⟨later, foundLater, recalls.succeeds succeeds⟩

/-- The account has the node of a record, and the record is its own or what clients see of it. -/
def Shows (account : Account) (record : Node) : Prop :=
  ∃ node, account.nodes.find? record.id = some node ∧
    (record = node.record ∨ record = account.shown node)

theorem Shows.remembers
    {account : Account}
    {record : Node}
    (shows : account.Shows record) :
    account.Remembers record := by
  rcases shows with ⟨node, found, rfl | rfl⟩
  · exact ⟨node, found, recalls_record node⟩
  · exact ⟨node, found, recalls_shown account node⟩

theorem shown_foldl_polling
    (ids : List NodeId)
    (account : Account) :
    (ids.foldl polling account).shown = account.shown := by
  induction ids generalizing account with
  | nil => rfl
  | cons id rest inductionHypothesis =>
    rw [List.foldl_cons, inductionHypothesis, shown_polling]

/-- What a poll shows of a node is a record of it afterwards. -/
theorem Numbered.shows_polled
    {account after : Account}
    (numbered : account.Numbered)
    {id : NodeId}
    {record : Node}
    (seen : account.pollView id = some record)
    (polled : after.nodes.find? id = (account.nodes.find? id).map afterPoll)
    (same : after.shown = account.shown) :
    after.Shows record := by
  rcases Option.map_eq_some_iff.1 seen with ⟨node, found, rfl⟩
  refine ⟨afterPoll node, ?_, Or.inr (congrFun same (afterPoll node)).symm⟩
  have name : (account.shown (afterPoll node)).id = id := by
    rw [id_shown, (continues_afterPoll node).id_eq]
    exact numbered.named id node found
  rw [name, polled, found]
  rfl

/-- Whatever record is in an answer, the account shows it of a node that it has afterwards. -/
theorem Numbered.shows_answer
    {account : Account}
    (numbered : account.Numbered)
    {asker : Client}
    {request : Request}
    {answer : Answer}
    (answered : account.reply asker request = .ok answer)
    {record : Node}
    (returned : record ∈ answer.records) :
    (account.next (.request asker request)).Shows record := by
  have admitted := admits_of_answered answered
  cases request with
  | create tag template =>
    rcases created_of_answered answered with ⟨location, rfl, stored⟩
    cases List.mem_singleton.1 returned
    rw [stored]
    refine ⟨account.newNode tag template location, ?_, Or.inl rfl⟩
    exact (find?_created account tag template location _).trans (if_pos rfl)
  | list tag =>
    rw [reply_list admitted] at answered
    rw [next_list admitted]
    cases answered
    rcases List.mem_filterMap.1 returned with ⟨id, member, seen⟩
    have polls := Alters.foldl_polling (account.nodup_listed tag) account
    exact numbered.shows_polled seen (polls.find?_of_mem member) (shown_foldl_polling _ account)
  | get id =>
    rw [reply_get admitted] at answered
    rw [next_get admitted]
    cases seen : account.pollView id with
    | none =>
      rw [seen] at answered
      cases answered
    | some shown =>
      rw [seen] at answered
      cases answered
      cases List.mem_singleton.1 returned
      exact numbered.shows_polled seen
        ((Alters.polling account id).find?_of_mem List.mem_cons_self) (shown_polling account id)
  | reboot id =>
    rw [reply_of_admits admitted] at answered
    rw [Answer.records_of_accepted answered] at returned
    cases returned
  | destroy id =>
    rw [reply_of_admits admitted] at answered
    rw [Answer.records_of_accepted answered] at returned
    cases returned
  | readCatalog =>
    rw [reply_of_admits admitted] at answered
    cases answered
    cases returned

/-- A record that was in an answer at some point of a history is remembered from then on. -/
theorem remembers_after
    (catalog : Catalog)
    (identity secret : String)
    (keys : TokenSupply)
    (earlier later : List Event)
    {asker : Client}
    {request : Request}
    {answer : Answer}
    (answered : ((opened catalog identity secret keys).after earlier).reply asker request =
      .ok answer)
    {record : Node}
    (returned : record ∈ answer.records) :
    ((opened catalog identity secret keys).after
      (earlier ++ .request asker request :: later)).Remembers record := by
  have numbered := (Numbered.opened catalog identity secret keys).after earlier
  rw [after_append, after_cons]
  exact (numbered.shows_answer answered returned).remembers.outlasts
    ((numbered.next _).outlasts_after later)

end Account

end Memory

end Fleet
