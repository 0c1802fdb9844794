import Fleet.Memory.History
import Fleet.Proofs.Table
import Mathlib.Data.List.Basic

/-!
# What operations do to an account

A poll never fails, because a pending node may settle either way; `afterPoll` is its effect. No
other operation asks for a move that the lifecycle forbids either. An operation either creates a
node, or it revises the account: the nodes and the index stay, and of every node all but its state
stays.
-/

namespace Fleet.Memory

/-- What a later sight of a node keeps of an earlier one: all but the state, and that one too once
it is final. -/
structure Continues (earlier later : AccountNode) : Prop where
  record : later.record = { earlier.record with state := later.record.state }
  final : earlier.record.state = .terminated → later.record.state = .terminated

namespace Continues

theorem refl (node : AccountNode) : Continues node node :=
  ⟨rfl, id⟩

theorem trans
    {first second third : AccountNode}
    (early : Continues first second)
    (late : Continues second third) :
    Continues first third := by
  refine ⟨?_, fun final => late.final (early.final final)⟩
  rw [late.record, early.record]

theorem id_eq
    {earlier later : AccountNode}
    (continues : Continues earlier later) :
    later.record.id = earlier.record.id := by
  rw [continues.record]

theorem tag_eq
    {earlier later : AccountNode}
    (continues : Continues earlier later) :
    later.record.tag = earlier.record.tag := by
  rw [continues.record]

end Continues

/-! ## Polls -/

/-- A node after one more poll. -/
def afterPoll (node : AccountNode) : AccountNode :=
  if node.record.state ≠ .pending then
    node
  else if 0 < node.pollsLeft then
    { node with pollsLeft := node.pollsLeft - 1 }
  else
    { node with
      record := { node.record with state := if node.failsToBoot then .error else .running } }

/-- A poll never breaks the lifecycle. -/
theorem polled_eq_ok (node : AccountNode) : Account.polled node = .ok (afterPoll node) := by
  simp only [Account.polled, afterPoll]
  split
  · rfl
  · rename_i pending
    split
    · rfl
    · have state : node.record.state = .pending := Decidable.of_not_not pending
      cases node.failsToBoot <;> simp [Node.moveTo, state, NodeState.mayBecome]

theorem continues_afterPoll (node : AccountNode) : Continues node (afterPoll node) := by
  unfold afterPoll
  split
  · exact Continues.refl node
  · rename_i pending
    split
    · exact ⟨rfl, id⟩
    · refine ⟨rfl, fun terminated => absurd ?_ pending⟩
      rw [terminated]
      decide

namespace Account

/-- The account after a poll of a node. -/
def polling (account : Account) (id : NodeId) : Account :=
  match account.nodes.find? id with
  | none => account
  | some node => { account with nodes := account.nodes.insert id (afterPoll node) }

theorem advance_eq_ok
    (account : Account)
    (id : NodeId) :
    account.advance id = .ok (account.polling id) := by
  cases found : account.nodes.find? id with
  | none => simp only [advance, polling, found]
  | some node =>
    simp only [advance, polling, found, polled_eq_ok]
    rfl

/-- A poll changes the node that is polled and no other. -/
theorem find?_polling
    (account : Account)
    (id other : NodeId) :
    (account.polling id).nodes.find? other =
      if id = other then (account.nodes.find? other).map afterPoll
      else account.nodes.find? other := by
  unfold polling
  split
  · rename_i missing
    split
    · rename_i same
      rw [← same, missing]
      rfl
    · rfl
  · rename_i node found
    rw [Table.find?_insert]
    split
    · rename_i same
      rw [← same, found]
      rfl
    · rfl

@[simp]
theorem shown_polling
    (account : Account)
    (id : NodeId) :
    (account.polling id).shown = account.shown := by
  unfold polling
  split <;> rfl

/-- The record that a poll of a node shows. -/
def pollView (account : Account) (id : NodeId) : Option Node :=
  (account.nodes.find? id).map fun node => account.shown (afterPoll node)

theorem pollView_polling_of_ne
    (account : Account)
    {id other : NodeId}
    (different : id ≠ other) :
    (account.polling id).pollView other = account.pollView other := by
  simp [pollView, find?_polling, different]

/-- Polls of different nodes show each node as a poll of it alone does. -/
theorem pollAll_eq
    {ids : List NodeId}
    (distinct : ids.Nodup)
    (account : Account) :
    pollAll ids account = (.ok (ids.filterMap account.pollView), ids.foldl polling account) := by
  induction ids generalizing account with
  | nil => rfl
  | cons id rest inductionHypothesis =>
    obtain ⟨fresh, restDistinct⟩ := List.nodup_cons.1 distinct
    have here : ((account.polling id).nodes.find? id).toList.map (account.polling id).shown =
        (account.pollView id).toList := by
      rw [find?_polling, shown_polling, pollView]
      cases account.nodes.find? id <;> simp
    have others : rest.filterMap (account.polling id).pollView =
        rest.filterMap account.pollView := by
      apply List.filterMap_congr
      intro other member
      apply pollView_polling_of_ne
      rintro rfl
      exact fresh member
    rw [pollAll, advance_eq_ok]
    simp only [inductionHypothesis restDistinct, here, others]
    cases shown : account.pollView id <;> simp [shown]

theorem nodup_listed
    (account : Account)
    (tag : Option String) :
    (account.listed tag).Nodup := by
  cases tag with
  | none => exact account.nodes.nodup_keys
  | some tag =>
    rw [listed]
    cases account.tags.find? tag with
    | none => exact List.nodup_nil
    | some names => exact names.nodup_keys

/-- A listing polls what it lists and shows it. -/
theorem list_eq
    (tag : Option String)
    (account : Account) :
    list tag account =
      (.ok ((account.listed tag).filterMap account.pollView),
        (account.listed tag).foldl polling account) :=
  pollAll_eq (account.nodup_listed tag) account

/-- A look-up polls one node and shows it. -/
theorem get_eq
    (id : NodeId)
    (account : Account) :
    get id account =
      ((account.pollView id).elim (.error (.nodeNotFound id)) .ok, account.polling id) := by
  simp only [get, advance_eq_ok, pollView, find?_polling, shown_polling]
  cases account.nodes.find? id <;> rfl

/-- A move that the lifecycle permits replaces the node. -/
theorem moved_eq
    (account : Account)
    (id : NodeId)
    {node : AccountNode}
    {state : NodeState}
    (permitted : node.record.state.mayBecome state = true) :
    account.moved id node state =
      (.ok (), { account with
        nodes := account.nodes.insert id
          { node with record := { node.record with state := state } } }) := by
  simp only [moved, Node.moveTo, if_pos permitted]

/-- Only a running node is rebooted, and nothing else happens to the account. -/
theorem reboot_cases
    (id : NodeId)
    (account : Account) :
    (account.nodes.find? id = none ∧
      reboot id account = (.error (.nodeNotFound id), account)) ∨
    (∃ node, account.nodes.find? id = some node ∧ node.record.state ≠ .running ∧
      reboot id account = (.error (.invalidState id node.record.state "reboot"), account)) ∨
    (∃ node, account.nodes.find? id = some node ∧ node.record.state = .running ∧
      reboot id account =
        (.ok (), { account with
          nodes := account.nodes.insert id
            { record := { node.record with state := .pending }, pollsLeft := account.bootPolls,
              failsToBoot := false } })) := by
  cases found : account.nodes.find? id with
  | none => exact Or.inl ⟨rfl, by simp only [reboot, found]⟩
  | some node =>
    refine Or.inr ?_
    by_cases running : node.record.state = .running
    · refine Or.inr ⟨node, rfl, running, ?_⟩
      simp only [reboot, found, running, ne_eq, not_true_eq_false, if_false]
      rw [moved_eq]
      simp only [running]
      rfl
    · refine Or.inl ⟨node, rfl, running, ?_⟩
      simp only [reboot, found, ne_eq, running, not_false_eq_true, if_true]

/-- What a destruction can come to, and what the account is then. -/
theorem destroy_cases
    (id : NodeId)
    (account : Account) :
    (∃ kind, account.destroyFaults.find? id = some kind ∧
      destroy id account = (.error (.injected "destroy" kind), account)) ∨
    (account.destroyFaults.find? id = none ∧ account.lingering.contains id = true ∧
      destroy id account = (.ok (), account)) ∨
    (account.destroyFaults.find? id = none ∧ account.lingering.contains id = false ∧
      account.nodes.find? id = none ∧
      destroy id account = (.error (.nodeNotFound id), account)) ∨
    (account.destroyFaults.find? id = none ∧ account.lingering.contains id = false ∧
      ∃ node, account.nodes.find? id = some node ∧ node.record.state = .terminated ∧
        destroy id account = (.ok (), account)) ∨
    (account.destroyFaults.find? id = none ∧ account.lingering.contains id = false ∧
      ∃ node, account.nodes.find? id = some node ∧ node.record.state ≠ .terminated ∧
        destroy id account =
          (.ok (), { account with
            nodes := account.nodes.insert id
              { node with record := { node.record with state := .terminated } } })) := by
  cases fault : account.destroyFaults.find? id with
  | some kind => exact Or.inl ⟨kind, rfl, by simp only [destroy, fault]⟩
  | none =>
    cases lingers : account.lingering.contains id with
    | true => exact Or.inr (Or.inl ⟨rfl, rfl, by simp only [destroy, fault, lingers, if_true]⟩)
    | false =>
      refine Or.inr (Or.inr ?_)
      cases found : account.nodes.find? id with
      | none => exact Or.inl ⟨rfl, rfl, rfl, by simp [destroy, fault, lingers, found]⟩
      | some node =>
        refine Or.inr ?_
        by_cases final : node.record.state = .terminated
        · refine Or.inl ⟨rfl, rfl, node, rfl, final, ?_⟩
          simp [destroy, fault, lingers, found, final, NodeState.isTerminated]
        · refine Or.inr ⟨rfl, rfl, node, rfl, final, ?_⟩
          have permitted : node.record.state.mayBecome .terminated = true := by
            cases state : node.record.state <;> simp_all [NodeState.mayBecome]
          simp [destroy, fault, lingers, found, final, NodeState.isTerminated,
            moved_eq _ _ permitted]

end Account

/-! ## Revisions -/

/-- The same nodes in the same index, each of them continued; the numbers of the address pool that
were given out are not given out again. -/
structure Revises (before after : Account) : Prop where
  tags : after.tags = before.tags
  numbers : min before.lastIndex Account.lastHost ≤ after.lastIndex
  kept : ∀ id node, before.nodes.find? id = some node →
    ∃ later, after.nodes.find? id = some later ∧ Continues node later
  absent : ∀ id, before.nodes.find? id = none → after.nodes.find? id = none

namespace Revises

theorem of_nodes_eq
    {before after : Account}
    (nodes : after.nodes = before.nodes)
    (tags : after.tags = before.tags)
    (numbers : min before.lastIndex Account.lastHost ≤ after.lastIndex) :
    Revises before after where
  tags := tags
  numbers := numbers
  kept _ node found := ⟨node, nodes ▸ found, Continues.refl node⟩
  absent _ missing := nodes ▸ missing

theorem refl (account : Account) : Revises account account :=
  of_nodes_eq rfl rfl (Nat.min_le_left _ _)

/-- Two revisions make one. -/
theorem trans
    {first second third : Account}
    (early : Revises first second)
    (late : Revises second third) :
    Revises first third where
  tags := late.tags.trans early.tags
  numbers := by
    have earlier := early.numbers
    have later := late.numbers
    omega
  kept id node found := by
    obtain ⟨middle, foundMiddle, continues⟩ := early.kept id node found
    obtain ⟨later, foundLater, continuesLater⟩ := late.kept id middle foundMiddle
    exact ⟨later, foundLater, continues.trans continuesLater⟩
  absent id missing := late.absent id (early.absent id missing)

/-- What a revised account holds, it held before. -/
theorem origin
    {before after : Account}
    (revises : Revises before after)
    {id : NodeId}
    {later : AccountNode}
    (found : after.nodes.find? id = some later) :
    ∃ node, before.nodes.find? id = some node ∧ Continues node later := by
  cases earlier : before.nodes.find? id with
  | none =>
    rw [revises.absent id earlier] at found
    cases found
  | some node =>
    obtain ⟨kept, foundKept, continues⟩ := revises.kept id node earlier
    rw [foundKept] at found
    cases found
    exact ⟨node, rfl, continues⟩

/-- Replacing one node by a later sight of it is a revision. -/
theorem of_insert
    {account : Account}
    {id : NodeId}
    {node later : AccountNode}
    (found : account.nodes.find? id = some node)
    (continues : Continues node later) :
    Revises account { account with nodes := account.nodes.insert id later } where
  tags := rfl
  numbers := Nat.min_le_left _ _
  kept other held foundHeld := by
    by_cases same : id = other
    · subst same
      rw [found] at foundHeld
      cases foundHeld
      exact ⟨later, Table.find?_insert_self _ _ _, continues⟩
    · exact ⟨held, by rwa [Table.find?_insert_of_ne _ _ same], Continues.refl held⟩
  absent other missing := by
    have different : id ≠ other := by
      rintro rfl
      rw [found] at missing
      cases missing
    rwa [Table.find?_insert_of_ne _ _ different]

theorem polling
    (account : Account)
    (id : NodeId) :
    Revises account (account.polling id) := by
  unfold Account.polling
  split
  · exact refl account
  · rename_i node found
    exact of_insert found (continues_afterPoll node)

theorem foldl_polling
    (ids : List NodeId)
    (account : Account) :
    Revises account (ids.foldl Account.polling account) := by
  induction ids generalizing account with
  | nil => exact refl account
  | cons id rest inductionHypothesis =>
    exact (polling account id).trans (inductionHypothesis (account.polling id))

theorem arrange
    (account : Account)
    (arrangement : Arrangement) :
    Revises account (account.arrange arrangement) := by
  cases arrangement <;> exact of_nodes_eq rfl rfl (Nat.min_le_left _ _)

end Revises

/-- An outcome of an operation that revises the account and breaks no rule of the lifecycle. -/
structure Revision {α : Type} (account : Account) (outcome : Except AccountError α × Account) :
    Prop where
  revises : Revises account outcome.2
  lawful : ∀ source, outcome.1 ≠ .error (.lifecycle source)

namespace Revision

variable {α β : Type}

theorem of_ok
    {account after : Account}
    (result : α)
    (revises : Revises account after) :
    Revision account (.ok result, after) :=
  ⟨revises, fun _ failed => by cases failed⟩

theorem of_error
    {account after : Account}
    {error : AccountError}
    (revises : Revises account after)
    (lawful : ∀ source, error ≠ .lifecycle source) :
    Revision account ((.error error : Except AccountError α), after) :=
  ⟨revises, fun source failed => lawful source (Except.error.inj failed)⟩

theorem list
    (tag : Option String)
    (account : Account) :
    Revision account (Account.list tag account) := by
  rw [Account.list_eq]
  exact of_ok _ (Revises.foldl_polling _ account)

theorem get
    (id : NodeId)
    (account : Account) :
    Revision account (Account.get id account) := by
  rw [Account.get_eq]
  cases account.pollView id with
  | none => exact of_error (Revises.polling account id) (by simp)
  | some record => exact of_ok record (Revises.polling account id)

/-- A reboot revises the account. -/
theorem reboot
    (id : NodeId)
    (account : Account) :
    Revision account (Account.reboot id account) := by
  rcases Account.reboot_cases id account with
    ⟨_, missing⟩ | ⟨node, _, _, refused⟩ | ⟨node, found, running, rebooted⟩
  · rw [missing]
    exact of_error (Revises.refl account) (by simp)
  · rw [refused]
    exact of_error (Revises.refl account) (by simp)
  · rw [rebooted]
    refine of_ok () (Revises.of_insert found ⟨rfl, fun final => ?_⟩)
    rw [running] at final
    cases final

/-- A destruction revises the account. -/
theorem destroy
    (id : NodeId)
    (account : Account) :
    Revision account (Account.destroy id account) := by
  rcases Account.destroy_cases id account with
    ⟨kind, _, refused⟩ | ⟨_, _, ignored⟩ | ⟨_, _, _, missing⟩ |
    ⟨_, _, node, _, _, done⟩ |
    ⟨_, _, node, found, _, destroyed⟩
  · rw [refused]
    exact of_error (Revises.refl account) (by simp)
  · rw [ignored]
    exact of_ok () (Revises.refl account)
  · rw [missing]
    exact of_error (Revises.refl account) (by simp)
  · rw [done]
    exact of_ok () (Revises.refl account)
  · rw [destroyed]
    exact of_ok () (Revises.of_insert found ⟨rfl, fun _ => rfl⟩)

theorem readCatalog
    (part : Catalog → α)
    (account : Account) :
    Revision account (Account.readCatalog part account) :=
  of_ok _ (Revises.of_nodes_eq rfl rfl (Nat.min_le_left _ _))

/-- What is made of the answer is no matter to a revision. -/
theorem andThen
    {operation : Operation α}
    {account : Account}
    (form : α → β)
    (revision : Revision account (operation account)) :
    Revision account (operation.andThen form account) := by
  refine ⟨revision.revises, fun source failed => revision.lawful source ?_⟩
  simp only [Operation.andThen] at failed
  cases result : (operation account).1 with
  | ok value =>
    rw [result] at failed
    cases failed
  | error error =>
    rw [result] at failed
    exact congrArg Except.error (Except.error.inj failed)

end Revision

/-! ## Creations -/

/-- The account with a node that is created under the next number. -/
def Account.created
    (account : Account)
    (tag : String)
    (template : Template)
    (location : LocationId) :
    Account :=
  { account with
    lastIndex := account.lastIndex + 1
    keys := (account.keyFor template).2 }.store
      (Account.newRecord (account.lastIndex + 1) tag template location (account.keyFor template).1)

/-- The only thing that can be wrong with a placement is that there is no place. -/
theorem Account.placement_error
    {account : Account}
    {location : Location}
    {error : AccountError}
    (failed : account.placement location = .error error) :
    error = .noPlacement location.id := by
  simp only [Account.placement] at failed
  split at failed
  · cases failed
  · cases failed
  all_goals
    split at failed
    · cases failed
    · exact (Except.error.inj failed).symm

/-- A creation either stores a node under the next number, or leaves nodes and index alone. -/
theorem Account.create_cases
    (tag : String)
    (template : Template)
    (account : Account) :
    Revision account (Account.create tag template account) ∨
    (account.lastIndex + 1 ≤ Account.lastHost ∧ ∃ location,
      account.placement template.location = .ok location ∧
      Account.create tag template account =
        (.ok (Account.newRecord (account.lastIndex + 1) tag template location
          (account.keyFor template).1), account.created tag template location)) := by
  unfold Account.create
  split
  · exact Or.inl (Revision.of_error (Revises.of_nodes_eq rfl rfl (Nat.min_le_left _ _)) (by simp))
  · cases placed : account.placement template.location with
    | error error =>
      refine Or.inl (Revision.of_error (Revises.refl account) ?_)
      rintro source rfl
      cases Account.placement_error placed
    | ok location =>
      by_cases exhausted : Account.lastHost < account.nextIndex
      · refine Or.inl ?_
        simp only [if_pos exhausted]
        refine Revision.of_error (Revises.of_nodes_eq rfl rfl ?_) (by simp)
        exact Nat.le_trans (Nat.min_le_right _ _) (Nat.le_of_lt exhausted)
      · have number : account.nextIndex = account.lastIndex + 1 := by
          simp only [Account.nextIndex, Account.lastHost, Text.largest32] at exhausted ⊢
          omega
        rw [number] at exhausted
        refine Or.inr ⟨Nat.le_of_not_lt exhausted, location, rfl, ?_⟩
        simp only [number, if_neg exhausted]
        rfl

end Fleet.Memory
