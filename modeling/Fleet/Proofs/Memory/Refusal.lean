import Fleet.Proofs.Memory.Strangers

/-!
# What refusals cost

A creation counts before it can fail, and a look-up polls before it can miss its node. Still a
refused request leaves hardly a trace: a creation that fails on purpose uses up its arranged
failure, one for which there is no address uses up its number, and every other refusal costs
nothing. So no refusal, and no sequence of refusals, touches a node, the countdown of its boot, the
index of tags or the arranged failures of boots.
-/

namespace Fleet.Memory

/-- An operation is refused whatever was to be made of its answer. -/
theorem Operation.error_of_andThen
    {α β : Type}
    {operation : Operation α}
    {form : α → β}
    {account : Account}
    {error : AccountError}
    (refused : (operation.andThen form account).1 = .error error) :
    (operation account).1 = .error error := by
  simp only [Operation.andThen] at refused
  cases result : (operation account).1 with
  | ok value =>
    rw [result] at refused
    cases refused
  | error cause =>
    rw [result] at refused
    exact congrArg Except.error (Except.error.inj refused)

namespace Account

variable {account : Account} {error : AccountError}

/-- The account after a refused request. -/
def charged (account : Account) : Request → AccountError → Account
  | .create .., .injected .. => { account with failingCreates := account.failingCreates - 1 }
  | .create .., .addressPoolExhausted => { account with lastIndex := account.nextIndex }
  | _, _ => account

/-! ## Refused operations -/

/-- A refused creation leaves nothing behind but what its error is charged with. -/
theorem create_of_refused
    {tag : String}
    {template : Template}
    (refused : (create tag template account).1 = .error error) :
    (create tag template account).2 = account.charged (.create tag template) error := by
  unfold create at refused ⊢
  by_cases failing : 0 < account.failingCreates
  · simp only [if_pos failing] at refused ⊢
    cases refused
    rfl
  · cases placed : account.placement template.location with
    | error cause =>
      simp only [if_neg failing, placed] at refused ⊢
      cases refused
      rw [placement_error placed]
      rfl
    | ok location =>
      by_cases exhausted : lastHost < account.nextIndex
      · simp only [if_neg failing, placed, if_pos exhausted] at refused ⊢
        cases refused
        rfl
      · simp only [if_neg failing, placed, if_neg exhausted] at refused
        cases refused

/-- A look-up that misses its node has polled none. -/
theorem get_of_refused
    {id : NodeId}
    (refused : (get id account).1 = .error error) :
    (get id account).2 = account := by
  rw [get_eq] at refused ⊢
  cases found : account.nodes.find? id with
  | none => simp only [polling, found]
  | some node =>
    rw [pollView, found] at refused
    cases refused

/-- No listing is refused. -/
theorem list_ne_error
    (tag : Option String)
    (account : Account)
    (error : AccountError) :
    (list tag account).1 ≠ .error error := by
  rw [list_eq]
  intro refused
  cases refused

theorem reboot_of_refused
    {id : NodeId}
    (refused : (reboot id account).1 = .error error) :
    (reboot id account).2 = account := by
  rcases reboot_cases id account with
    ⟨_, missing⟩ | ⟨_, _, _, unfit⟩ | ⟨_, _, _, rebooted⟩
  · rw [missing]
  · rw [unfit]
  · rw [rebooted] at refused
    cases refused

theorem destroy_of_refused
    {id : NodeId}
    (refused : (destroy id account).1 = .error error) :
    (destroy id account).2 = account := by
  rcases destroy_cases id account with
    ⟨_, _, faulty⟩ | ⟨_, _, ignored⟩ | ⟨_, _, _, missing⟩ | ⟨_, _, _, _, _, done⟩ |
    ⟨_, _, _, _, _, destroyed⟩
  · rw [faulty]
  · rw [ignored]
  · rw [missing]
  · rw [done]
  · rw [destroyed] at refused
    cases refused

theorem operation_of_refused
    {request : Request}
    (refused : (request.operation account).1 = .error error) :
    (request.operation account).2 = account.charged request error := by
  cases request with
  | create tag template => exact create_of_refused (Operation.error_of_andThen refused)
  | list tag => exact absurd (Operation.error_of_andThen refused) (list_ne_error tag account error)
  | get id => exact get_of_refused (Operation.error_of_andThen refused)
  | reboot id => exact reboot_of_refused (Operation.error_of_andThen refused)
  | destroy id => exact destroy_of_refused (Operation.error_of_andThen refused)
  | readCatalog => cases refused

theorem next_of_refused
    {client : Client}
    {request : Request}
    (refused : account.reply client request = .error error) :
    account.next (.request client request) = account.charged request error := by
  by_cases admitted : account.admits client = true
  · rw [reply_of_admits admitted] at refused
    rw [next_of_admits admitted]
    exact operation_of_refused refused
  · rw [reply_of_not_admits admitted] at refused
    cases refused
    rw [next_of_not_admits admitted]
    cases request <;> rfl

/-! ## What no refusal touches -/

/-- The same nodes under the same tags, each of them as far in its boot, and as many boots that are
arranged to fail. -/
structure SameNodes (before after : Account) : Prop where
  nodes : after.nodes = before.nodes
  tags : after.tags = before.tags
  failingBoots : after.failingBoots = before.failingBoots

theorem SameNodes.refl (account : Account) : SameNodes account account :=
  ⟨rfl, rfl, rfl⟩

theorem SameNodes.trans
    {first second third : Account}
    (early : SameNodes first second)
    (late : SameNodes second third) :
    SameNodes first third :=
  ⟨late.nodes.trans early.nodes, late.tags.trans early.tags,
    late.failingBoots.trans early.failingBoots⟩

theorem sameNodes_charged
    (account : Account)
    (request : Request)
    (error : AccountError) :
    SameNodes account (account.charged request error) := by
  unfold charged
  split <;> exact ⟨rfl, rfl, rfl⟩

/-- Only a creation for which there is no address is counted. -/
theorem lastIndex_charged
    (account : Account)
    (request : Request)
    (addressed : error ≠ .addressPoolExhausted) :
    (account.charged request error).lastIndex = account.lastIndex := by
  unfold charged
  split
  · rfl
  · exact absurd rfl addressed
  · rfl

theorem response_of_refused
    {event : Event}
    (refused : account.response event = some (.error error)) :
    ∃ client request, event = .request client request ∧
      account.reply client request = .error error := by
  cases event with
  | arrangement arrangement => cases refused
  | request client request => exact ⟨client, request, rfl, Option.some.inj refused⟩

/-- A history in which every event is a refused request. -/
def AllRefused (account : Account) (history : List Event) : Prop :=
  ∀ entry ∈ account.responses history, ∃ error, entry.2 = some (.error error)

theorem AllRefused.sameNodes
    {history : List Event}
    (refused : account.AllRefused history) :
    SameNodes account (account.after history) := by
  induction history generalizing account with
  | nil => exact SameNodes.refl account
  | cons event later inductionHypothesis =>
    rcases List.forall_mem_cons.1 refused with ⟨⟨error, here⟩, others⟩
    rcases response_of_refused here with ⟨client, request, rfl, answered⟩
    have onwards := inductionHypothesis others
    rw [next_of_refused answered] at onwards
    rw [after_cons, next_of_refused answered]
    exact (sameNodes_charged account request error).trans onwards

/-- Refused requests use up numbers only when the addresses are used up. -/
theorem AllRefused.lastIndex
    {history : List Event}
    (refused : account.AllRefused history)
    (addressed : ∀ entry ∈ account.responses history,
      entry.2 ≠ some (.error .addressPoolExhausted)) :
    (account.after history).lastIndex = account.lastIndex := by
  induction history generalizing account with
  | nil => rfl
  | cons event later inductionHypothesis =>
    rcases List.forall_mem_cons.1 refused with ⟨⟨error, here⟩, others⟩
    rcases List.forall_mem_cons.1 addressed with ⟨addressedHere, addressedLater⟩
    rcases response_of_refused here with ⟨client, request, rfl, answered⟩
    have inPool : error ≠ .addressPoolExhausted := by
      rintro rfl
      exact addressedHere here
    rw [after_cons, inductionHypothesis others addressedLater, next_of_refused answered,
      lastIndex_charged account request inPool]

/-- A refused request costs its account no more than the arranged failure that it ran into or the
number for which there is no address. So it leaves every node, with its state and the countdown of
its boot, the index of tags and the arranged failures of boots as they were, and it is not counted
unless the addresses are used up. The same holds of any number of refused requests in a row. -/
theorem refusals_leave_nodes_alone (account : Account) :
    (∀ client request error, account.reply client request = .error error →
      account.next (.request client request) = account.charged request error ∧
      SameNodes account (account.next (.request client request)) ∧
      (error ≠ .addressPoolExhausted →
        (account.next (.request client request)).lastIndex = account.lastIndex)) ∧
    ∀ history, account.AllRefused history →
      SameNodes account (account.after history) ∧
      ((∀ entry ∈ account.responses history,
        entry.2 ≠ some (.error .addressPoolExhausted)) →
        (account.after history).lastIndex = account.lastIndex) := by
  constructor
  · intro client request error refused
    rw [next_of_refused refused]
    exact ⟨rfl, sameNodes_charged account request error, lastIndex_charged account request⟩
  · intro history refused
    exact ⟨refused.sameNodes, refused.lastIndex⟩

end Account

end Fleet.Memory
