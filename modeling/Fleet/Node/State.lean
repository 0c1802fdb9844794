import Fleet.Text.Blank
import Fleet.Text.Letters

/-!
# The lifecycle of a node

A node is pending while it boots or reboots, runs, fails, or is terminated for good. A provider may
also report a state that fits none of these; such a state leads anywhere and is reached from
anywhere but from the final one. `mayBecome` is the table of permitted moves.
-/

namespace Fleet

/-- The state of a node. -/
inductive NodeState where
  /-- Requested, booting or rebooting. -/
  | pending
  /-- Booted. -/
  | running
  /-- Destroyed for good. -/
  | terminated
  /-- Failed beyond repair. -/
  | error
  /-- Reported in words that cannot be classified. -/
  | unknown
  deriving DecidableEq, Repr

namespace NodeState

/-- The name of a state. -/
def name : NodeState → String
  | pending => "PENDING"
  | running => "RUNNING"
  | terminated => "TERMINATED"
  | error => "ERROR"
  | unknown => "UNKNOWN"

/-- The place of a state in the order of states. -/
def rank : NodeState → Nat
  | pending => 0
  | running => 1
  | terminated => 2
  | error => 3
  | unknown => 4

instance : Ord NodeState where
  compare left right := compare left.rank right.rank

theorem rank_injective
    {left right : NodeState}
    (same : left.rank = right.rank) :
    left = right := by
  cases left <;> cases right <;> simp_all [rank]

instance : Std.TransOrd NodeState :=
  inferInstanceAs (Std.TransCmp (compareOn rank))

instance : Std.LawfulEqOrd NodeState where
  compare_self {state} := Std.ReflOrd.compare_self (a := state.rank)
  eq_of_compare same := rank_injective (Std.LawfulEqOrd.eq_of_compare same)

/-- The state that a provider's word stands for. -/
def ofWord : String → NodeState
  | "pending" | "starting" | "booting" | "provisioning" | "rebooting" | "building" | "new" =>
    pending
  | "running" | "active" | "on" | "ready" => running
  | "terminated" | "deleted" | "destroyed" | "terminating" | "shutting-down" => terminated
  | "error" | "failed" | "locked" | "crashed" => error
  | _ => unknown

/-- The state that a provider reports, blanks around the word and the case of its letters aside. -/
def reported (text : String) : NodeState :=
  ofWord (Text.lowerCase (Text.trim text))

/-- Whether the node has been destroyed. -/
def isTerminated (state : NodeState) : Bool :=
  state == terminated

/-- Whether the state changes only when somebody acts on the node. -/
def isSettled : NodeState → Bool
  | running | terminated | error => true
  | pending | unknown => false

/-- Whether a node in one state may be seen in another next. -/
def mayBecome : NodeState → NodeState → Bool
  | terminated, next => next == terminated
  | _, unknown => true
  | unknown, _ => true
  | error, pending | error, running => false
  | _, _ => true

/-- The final state is left for no other. -/
theorem mayBecome_terminated_iff (next : NodeState) :
    terminated.mayBecome next = true ↔ next = terminated := by
  cases next <;> decide

/-- A node may stay in any state. -/
@[simp]
theorem mayBecome_self (state : NodeState) : state.mayBecome state = true := by
  cases state <;> rfl

end NodeState

end Fleet
