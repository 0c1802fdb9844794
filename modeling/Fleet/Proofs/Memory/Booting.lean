import Fleet.Proofs.Memory.Operation
import Mathlib.Logic.Function.Iterate

/-!
# How a node boots

A pending node counts its polls down and settles with the poll after the last of them, in a state
that was decided at its creation. Whoever polls one node leaves every other one as it is.
-/

namespace Fleet.Memory

/-- While polls are left, a poll takes one of them. -/
theorem iterate_afterPoll
    {node : AccountNode}
    (pending : node.record.state = .pending)
    {count : Nat}
    (few : count ≤ node.pollsLeft) :
    afterPoll^[count] node = { node with pollsLeft := node.pollsLeft - count } := by
  induction count with
  | zero => rfl
  | succ count inductionHypothesis =>
    have left : 0 < node.pollsLeft - count := by omega
    rw [Function.iterate_succ_apply', inductionHypothesis (by omega), afterPoll]
    simp only [pending, ne_eq, not_true_eq_false, if_false, if_pos left, Nat.sub_sub]

/-- The state in which a boot ends. -/
def AccountNode.bootEnd (node : AccountNode) : NodeState :=
  if node.failsToBoot then .error else .running

/-- The node at the end of its boot. -/
def AccountNode.booted (node : AccountNode) : AccountNode :=
  { node with pollsLeft := 0, record := { node.record with state := node.bootEnd } }

/-- The poll after the last one settles the node. -/
theorem iterate_afterPoll_settles
    {node : AccountNode}
    (pending : node.record.state = .pending) :
    afterPoll^[node.pollsLeft + 1] node = node.booted := by
  rw [Function.iterate_succ_apply', iterate_afterPoll pending (Nat.le_refl _), afterPoll,
    Nat.sub_self]
  simp only [pending, ne_eq, not_true_eq_false, if_false, Nat.lt_irrefl]
  rfl

/-- A poll moves a node as the lifecycle permits. -/
theorem mayBecome_afterPoll (node : AccountNode) :
    node.record.state.mayBecome (afterPoll node).record.state = true := by
  unfold afterPoll
  split
  · exact NodeState.mayBecome_self _
  · rename_i notPending
    have pending : node.record.state = .pending := Decidable.of_not_not notPending
    split
    · exact NodeState.mayBecome_self _
    · rw [pending]
      cases node.failsToBoot <;> rfl

namespace Account

@[simp]
theorem state_shown
    (account : Account)
    (node : AccountNode) :
    (account.shown node).state = node.record.state := by
  unfold shown
  split <;> rfl

@[simp]
theorem id_shown
    (account : Account)
    (node : AccountNode) :
    (account.shown node).id = node.record.id := by
  unfold shown
  split <;> rfl

/-- Two accounts differ in nothing but their nodes. -/
def SameButNodes (before after : Account) : Prop :=
  after = { before with nodes := after.nodes }

namespace SameButNodes

theorem refl (account : Account) : SameButNodes account account := rfl

theorem trans
    {first second third : Account}
    (early : SameButNodes first second)
    (late : SameButNodes second third) :
    SameButNodes first third := by
  unfold SameButNodes at *
  rw [late, early]

theorem admits
    {before after : Account}
    (same : SameButNodes before after)
    (client : Client) :
    after.admits client = before.admits client := by
  rw [same]
  rfl

theorem shown
    {before after : Account}
    (same : SameButNodes before after) :
    after.shown = before.shown := by
  rw [same]
  rfl

theorem polling
    (account : Account)
    (id : NodeId) :
    SameButNodes account (account.polling id) := by
  unfold Account.polling
  split
  · exact refl account
  · rfl

end SameButNodes

/-- A poll that finds its node shows it one poll further. -/
theorem get_of_found
    {account : Account}
    {id : NodeId}
    {node : AccountNode}
    (found : account.nodes.find? id = some node) :
    get id account = (.ok (account.shown (afterPoll node)), account.polling id) := by
  rw [get_eq, pollView, found]
  rfl

end Account

end Fleet.Memory
