import Fleet.Service.Basic

/-!
# Waiting for a node to settle

A node is looked at again and again until it has settled, until a look shows a move that the
lifecycle forbids, or until the provider says that the node is gone or the credentials are rejected.
Other failed looks do not end the wait. The wait ends with the node's timeout, and its outcome says
why it ended.
-/

namespace Fleet

/-- How a wait for a node ended. -/
inductive Settling where
  /-- The node runs, and its record is well-formed. -/
  | running (node : Node)
  /-- A record, or a move between records, breaks a rule. -/
  | invalid (id : NodeId) (error : NodeError)
  /-- The node settled in another state. -/
  | stopped (id : NodeId) (state : NodeState)
  /-- The time was over before the node had settled. -/
  | timedOut (id : NodeId) (state : NodeState)
  /-- The last look failed. -/
  | failed (id : NodeId) (failure : ProviderFailure)
  deriving DecidableEq

/-- Whether the wait ended with a running node. -/
def Settling.isRunning : Settling → Bool
  | running _ => true
  | _ => false

/-- What is remembered from one look to the next. -/
structure Sighting where
  /-- The state in which the node was seen last. -/
  previous : NodeState
  /-- The outcome of the last look. -/
  last : Option (Except ProviderFailure Node) := none
  /-- The forbidden move, once one was seen. -/
  illegal : Option NodeError := none

namespace Sighting

/-- Whether a failed look ends the wait. -/
def isFinal (failure : ProviderFailure) : Bool :=
  failure.kind == .authorization || failure.kind == .notFound

/-- What is remembered after a look, and whether the look ends the wait. -/
def note (sighting : Sighting) (look : Except ProviderFailure Node) : Bool × Sighting :=
  match look with
  | .error failure => (isFinal failure, { sighting with last := some look })
  | .ok node =>
    if sighting.previous.mayBecome node.state then
      (node.state.isSettled, { sighting with previous := node.state, last := some look })
    else
      (true,
        { sighting with
          last := some look
          illegal := some (.illegalTransition node.id sighting.previous node.state) })

/-- What a wait for a node comes to, given whether its last look ended it. -/
def outcome (sighting : Sighting) (id : NodeId) (ended : Bool) : Settling :=
  match sighting.illegal with
  | some error => .invalid id error
  | none =>
    match sighting.last with
    | none => .timedOut id .unknown
    | some (.error failure) => .failed id failure
    | some (.ok node) =>
      if ended then
        if node.state = .running then
          match node.checkInvariants with
          | .ok _ => .running node
          | .error error => .invalid node.id error
        else
          .stopped node.id node.state
      else
        .timedOut node.id node.state

end Sighting

namespace Service

variable {σ S : Type}

/-- How long and how often the service looks at a node. -/
def settlePolicy (settings : ServiceSettings) : PollPolicy :=
  { budget := settings.runningTimeout, period := settings.pollPeriod }

/-- One look at a node. -/
def look
    (provider : Provider σ)
    (id : NodeId)
    (sighting : Sighting) :
    Activity σ (Bool × Sighting) := do
  pure (sighting.note (← provider.get id))

/-- Wait until a node, last known in some state, has settled. -/
def awaitSettled
    (service : Service σ S)
    (id : NodeId)
    (known : NodeState) :
    Activity σ Settling := do
  let (ended, sighting) ← (settlePolicy service.settings).follow (look service.provider id)
    { previous := known }
  pure (sighting.outcome id ended)

end Service

end Fleet
