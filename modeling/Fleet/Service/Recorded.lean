import Fleet.Results
import Fleet.Script.Recorded
import Fleet.Service.Batch
import Fleet.Service.BringUp
import Fleet.Service.Inspect
import Fleet.Service.Scripts

/-!
# Operations with a record of their failed calls

The answer of an operation does not say which of its provider calls failed. A recorded operation
does the same and hands over the failures as well, those of the looks at nodes that are waited for
apart from all others. A look that is cut off has no answer and therefore no failure.

A wait may also be logged, look by look, and the way of a created node may tell what its script came
to.

Nor does the answer say with which logins sessions were opened. A service with a record does what
the service under it does, and keeps a record of all that its scripts do on sessions. The provider
and the catalog lie beside the record and do not touch it.
-/

namespace Fleet

/-- The answer to a look at a node. -/
abbrev Look := Except ProviderFailure Node

/-- What a script came to on a node: a response, or a failure on the way to it. -/
abbrev ScriptEnding := Except ScriptFailure Response

/-- The failures of looks, with the nodes that were looked at. -/
abbrev FailedLooks := List (NodeId × ProviderFailure)

/-- The failures of the provider calls of an operation. -/
structure FailedCalls where
  /-- Failures of calls that are made once. -/
  direct : List ProviderFailure := []
  /-- Failures of looks at a node that is waited for. -/
  looks : FailedLooks := []

namespace Service

variable {σ S α : Type}

/-- A look at a node that is waited for. -/
def recordedLook
    (provider : Provider σ)
    (id : NodeId)
    (memory : Sighting × FailedLooks) :
    Activity σ (Bool × Sighting × FailedLooks) := do
  let shown ← provider.get id
  let (ends, sighting) := memory.1.note shown
  pure (ends, sighting, memory.2 ++ (Results.failures [shown]).map (id, ·))

/-- The wait for a node to settle. -/
def recordedWait
    (service : Service σ S)
    (id : NodeId)
    (known : NodeState) :
    Activity σ (Settling × FailedLooks) := do
  let (ended, sighting, failures) ← (settlePolicy service.settings).follow
    (recordedLook service.provider id) ({ previous := known }, [])
  pure (sighting.outcome id ended, failures)

/-- A look at a node that is waited for, with its answer behind those of the looks before. -/
def loggedLook
    (provider : Provider σ)
    (id : NodeId)
    (memory : Sighting × List Look) :
    Activity σ (Bool × Sighting × List Look) := do
  let shown ← provider.get id
  let (ends, sighting) := memory.1.note shown
  pure (ends, sighting, memory.2 ++ [shown])

/-- The wait for a node to settle, with the answers to its looks. -/
def loggedWait
    (service : Service σ S)
    (id : NodeId)
    (known : NodeState) :
    Activity σ (Settling × List Look) := do
  let (ended, sighting, looks) ← (settlePolicy service.settings).follow
    (loggedLook service.provider id) ({ previous := known }, [])
  pure (sighting.outcome id ended, looks)

/-- What is left of bringing a node up once the wait for it is over. -/
def completeBringUp
    (service : Service σ S)
    (options : TemplateOptions)
    (settling : Settling) :
    Activity σ (Except NodeFailure Node) :=
  match runningNode service.settings settling with
  | .error failure => pure (.error failure)
  | .ok node => do
    match ← service.requirePort options node with
    | .error failure => pure (.error failure)
    | .ok node => service.requireScript options node

/-- The way of a created node. -/
def recordedBringUp
    (service : Service σ S)
    (options : TemplateOptions)
    (created : Node) :
    Activity σ (Except NodeFailure Node × FailedLooks) := do
  let (settling, failures) ← service.recordedWait created.id created.state
  let outcome ← service.completeBringUp options settling
  pure (outcome, failures)

/-- The script that the options ask for, with what it came to. -/
def tellingScript
    (service : Service σ S)
    (options : TemplateOptions)
    (node : Node) :
    Activity σ (Except NodeFailure Node × Option ScriptEnding) :=
  match options.script with
  | none => pure (.ok node, none)
  | some script => do
    match ← service.executor.runScript node script (service.scriptOptions options) with
    | .ok response => pure (.ok node, some (.ok response))
    | .error failure => pure (.error (.script failure), some (.error failure))

/-- The way of a created node, with what its script came to when it was started. -/
def tellingBringUp
    (service : Service σ S)
    (options : TemplateOptions)
    (created : Node) :
    Activity σ (Except NodeFailure Node × Option ScriptEnding) := do
  match runningNode service.settings (← service.awaitSettled created.id created.state) with
  | .error failure => pure (.error failure, none)
  | .ok node =>
    match ← service.requirePort options node with
    | .error failure => pure (.error failure, none)
    | .ok node => service.tellingScript options node

/-- The creation of a batch. -/
def recordedRun
    (service : Service σ S)
    (tag : String)
    (count : Nat)
    (template : Template) :
    Activity σ (Except ServiceError BatchReport × FailedCalls) :=
  if Text.isBlankText tag then
    pure (.error (.invalidRequest "tag must not be blank"), {})
  else do
    let creations ← service.provider.createMany tag count template
    let direct := Results.failures creations
    match sortCreations creations with
    | .error error => pure (.error error, { direct := direct })
    | .ok (created, refused) =>
      let outcomes ← Activity.gathered (created.map (service.recordedBringUp template.options))
      let (nodes, failures) := sortResults (outcomes.map Prod.fst)
      pure (.ok { nodes := Node.sortById nodes, failures := refused ++ failures },
        { direct := direct, looks := outcomes.flatMap Prod.snd })

/-- The reboot of a tag. -/
def recordedReboot (service : Service σ S) (tag : String) :
    Activity σ (Except ServiceError BatchOutcome × FailedCalls) := do
  match ← service.provider.rebootAll tag with
  | .error failure => pure (.error (.ofFailure .rebootNodes failure), { direct := [failure] })
  | .ok results =>
    let direct := Results.failures (results.map Prod.snd)
    match sortReboots results with
    | .error error => pure (.error error, { direct := direct })
    | .ok (accepted, failed) =>
      let waits ← Activity.gathered (accepted.map fun id => service.recordedWait id .running)
      let (back, lost) := (accepted.zip (waits.map Prod.fst)).partition fun pair => pair.2.isRunning
      pure (.ok
        { succeeded := back.map Prod.fst, failed := failed, unsettled := lost.map Prod.fst },
        { direct := direct, looks := waits.flatMap Prod.snd })

/-- The destruction of a tag. -/
def recordedDestroy (service : Service σ S) (tag : String) :
    Activity σ (Except ServiceError BatchOutcome × FailedCalls) := do
  match ← service.provider.destroyAll tag with
  | .error failure => pure (.error (.ofFailure .destroyNodes failure), { direct := [failure] })
  | .ok results =>
    let direct := Results.failures (results.map Prod.snd)
    match sortDestructions results with
    | .error error => pure (.error error, { direct := direct })
    | .ok outcome =>
      match ← service.provider.list (some tag) with
      | .error failure =>
        pure (.error (.ofFailure .listNodes failure), { direct := direct ++ [failure] })
      | .ok listed =>
        pure (.ok (outcome.leaving (survivors outcome.succeeded listed)), { direct := direct })

/-- A single call whose answer a function completes. -/
def recordedCall
    {β : Type}
    (call : ProviderCall)
    (activity : Activity σ (Except ProviderFailure β))
    (complete : β → Except ServiceError α) :
    Activity σ (Except ServiceError α × FailedCalls) := do
  let answer ← activity
  pure ((answer.mapError (ServiceError.ofFailure call)).bind complete,
    { direct := Results.failures [answer] })

/-- A call whose failure carries its name. -/
def namedCall (call : ProviderCall) (activity : Activity σ (Except ProviderFailure α)) :
    Activity σ (Except (ProviderCall × ProviderFailure) α) := do
  pure ((← activity).mapError (call, ·))

/-- The load of the catalog; the first failed listing ends it, so that no other one fails. -/
def recordedFetch (service : Service σ S) :
    Activity σ (Except ServiceError Catalog × FailedCalls) := do
  let offers ← (namedCall .listImages service.provider.images).bothOrError
    ((namedCall .listSizes service.provider.sizes).bothOrError
      (namedCall .listLocations service.provider.locations))
  match offers with
  | .error (call, failure) => pure (.error (.ofFailure call failure), { direct := [failure] })
  | .ok offers => pure (catalogOf offers, {})

/-- The current catalog. -/
def recordedCatalog (service : Service σ S) :
    Activity σ (Except ServiceError Catalog × FailedCalls) := do
  let cache := service.cache
  match ← Activity.observe fun now state =>
      CatalogCache.serve cache.lifetime now (cache.slot.view state) with
  | some catalog => pure (.ok catalog, {})
  | none =>
    match ← service.recordedFetch with
    | (.error error, calls) => pure (.error error, calls)
    | (.ok catalog, calls) =>
      Activity.perform fun now state =>
        ((.ok catalog, calls),
          cache.slot.update (some { loadedAt := now, catalog := catalog }) state)

end Service

/-! ## Sessions on record -/

variable {σ S : Type}

/-- A part of the state beside something else. -/
def Part.beside {τ : Type} (ρ : Type) (part : Part σ τ) : Part (σ × ρ) τ where
  view whole := part.view whole.1
  update inner whole := (part.update inner whole.1, whole.2)

/-- The provider beside something that it does not touch. -/
def Provider.beside (ρ : Type) (provider : Provider σ) : Provider (σ × ρ) where
  name := provider.name
  loginAccount := provider.loginAccount
  create tag template := (provider.create tag template).focus (Part.first σ ρ)
  list tag := (provider.list tag).focus (Part.first σ ρ)
  get id := (provider.get id).focus (Part.first σ ρ)
  reboot id := (provider.reboot id).focus (Part.first σ ρ)
  destroy id := (provider.destroy id).focus (Part.first σ ρ)
  images := provider.images.focus (Part.first σ ρ)
  sizes := provider.sizes.focus (Part.first σ ρ)
  locations := provider.locations.focus (Part.first σ ρ)
  createMany tag count template :=
    (provider.createMany tag count template).focus (Part.first σ ρ)
  rebootAll tag := (provider.rebootAll tag).focus (Part.first σ ρ)
  destroyAll tag := (provider.destroyAll tag).focus (Part.first σ ρ)

/-- The service with a record of what it does on sessions. -/
def Service.recordingSessions (service : Service σ S) :
    Service (σ × SessionRecord) (Tracked S) where
  provider := service.provider.beside SessionRecord
  executor := service.executor.recording
  settings := service.settings
  catalogSlot := service.catalogSlot.beside SessionRecord

end Fleet
