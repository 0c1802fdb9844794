import Fleet.Service.Settle

/-!
# Rebooting and destroying a batch

Both operations act on every live node of a tag and report what became of each. A reboot succeeds on
a node that runs again in time. A destruction tolerates what the provider cannot do or may do later,
counts a node that is gone as destroyed, and lists the tag once more: a destroyed node that is still
live then is left over.
-/

namespace Fleet

/-- What became of the nodes of a tag. -/
structure BatchOutcome where
  /-- The nodes that reached the wanted state. -/
  succeeded : List NodeId := []
  /-- Failures that are tolerated. -/
  swallowed : List (NodeId × ProviderFailure) := []
  /-- Failures that are not tolerated. -/
  failed : List (NodeId × ProviderFailure) := []
  /-- The nodes for which the provider accepted the request and that did not reach the wanted
  state. -/
  unsettled : List NodeId := []
  deriving DecidableEq, Repr

/-- Whether nothing failed and nothing is left over. -/
def BatchOutcome.isClean (outcome : BatchOutcome) : Bool :=
  outcome.failed.isEmpty && outcome.swallowed.isEmpty && outcome.unsettled.isEmpty

/-- The outcome with the survivors left over. -/
def BatchOutcome.leaving (outcome : BatchOutcome) (left : List NodeId) : BatchOutcome :=
  { outcome with
    succeeded := outcome.succeeded.filter fun id => !left.contains id
    unsettled := left }

namespace Service

variable {σ S : Type}

/-- The nodes whose reboot was accepted, and the failed reboots; rejected credentials are an
error. -/
def sortReboots : BatchResults →
    Except ServiceError (List NodeId × List (NodeId × ProviderFailure))
  | [] => .ok ([], [])
  | (id, .ok _) :: rest => do
    let (accepted, failed) ← sortReboots rest
    pure (id :: accepted, failed)
  | (id, .error failure) :: rest =>
    if failure.isAuthorization then
      .error (.ofFailure .rebootNode failure)
    else do
      let (accepted, failed) ← sortReboots rest
      pure (accepted, (id, failure) :: failed)

/-- Reboot the nodes of a tag and wait for each to run again. -/
def rebootTagged (service : Service σ S) (tag : String) :
    Activity σ (Except ServiceError BatchOutcome) := do
  match ← service.provider.rebootAll tag with
  | .error failure => pure (.error (.ofFailure .rebootNodes failure))
  | .ok results =>
    match sortReboots results with
    | .error error => pure (.error error)
    | .ok (accepted, failed) =>
      let settled ← Activity.gathered (accepted.map fun id => service.awaitSettled id .running)
      let (back, lost) := (accepted.zip settled).partition fun pair => pair.2.isRunning
      pure (.ok
        { succeeded := back.map Prod.fst, failed := failed, unsettled := lost.map Prod.fst })

/-- Destructions by what became of them, in order; rejected credentials are an error. -/
def sortDestructions : BatchResults → Except ServiceError BatchOutcome
  | [] => .ok {}
  | (id, .ok _) :: rest => do
    let outcome ← sortDestructions rest
    pure { outcome with succeeded := id :: outcome.succeeded }
  | (id, .error failure) :: rest =>
    match failure.kind with
    | .authorization => .error (.ofFailure .destroyNode failure)
    | .notFound => do
      let outcome ← sortDestructions rest
      pure { outcome with succeeded := id :: outcome.succeeded }
    | .unsupported | .transient => do
      let outcome ← sortDestructions rest
      pure { outcome with swallowed := (id, failure) :: outcome.swallowed }
    | .fatal => do
      let outcome ← sortDestructions rest
      pure { outcome with failed := (id, failure) :: outcome.failed }

/-- The nodes among the destroyed ones that a listing still shows live, by name. -/
def survivors (destroyed : List NodeId) (listed : List Node) : List NodeId :=
  (Table.ofList ((listed.filter fun node =>
    destroyed.contains node.id && node.isLive).map fun node => (node.id, ()))).keys

/-- Destroy the nodes of a tag and see which are left. -/
def destroyTagged (service : Service σ S) (tag : String) :
    Activity σ (Except ServiceError BatchOutcome) := do
  match ← service.provider.destroyAll tag with
  | .error failure => pure (.error (.ofFailure .destroyNodes failure))
  | .ok results =>
    match sortDestructions results with
    | .error error => pure (.error error)
    | .ok outcome =>
      match ← service.listTagged tag with
      | .error error => pure (.error error)
      | .ok listed =>
        pure (.ok (outcome.leaving (survivors outcome.succeeded listed)))

end Service

end Fleet
