import Fleet.Provider.Basic
import Fleet.Script.Run
import Fleet.Service.CatalogCache
import Fleet.Service.Error

/-!
# The service

A service drives one provider: it brings batches of nodes up, runs scripts on them, reboots and
destroys them. It keeps no record of nodes; a tag is all that identifies a batch, so services over
one account see the same nodes. Listings and the catalog are passed through from the provider.
-/

namespace Fleet

/-- The times that a service allows. -/
structure ServiceSettings where
  /-- How long a node may take to settle. -/
  runningTimeout : Nat := Duration.ofSeconds 600
  /-- The pause between two looks at a node. -/
  pollPeriod : Nat := Duration.second
  /-- How long a catalog is served. -/
  catalogLifetime : Nat := Duration.ofSeconds 60
  /-- How long login ports may take to open before scripts run. -/
  socketWait : PollPolicy := PollPolicy.forSockets
  /-- How a node is verified. -/
  verification : AttemptPolicy := AttemptPolicy.forVerification
  deriving DecidableEq, Repr

/-- A provider with what is needed to drive it. -/
structure Service (σ S : Type) where
  provider : Provider σ
  executor : Executor σ S
  settings : ServiceSettings
  /-- Where the catalog is kept. -/
  catalogSlot : Part σ (Option Snapshot)

namespace Service

variable {σ S α : Type}

/-- A provider call with its failure as an error of the service. -/
def calling (call : ProviderCall) (activity : Activity σ (Except ProviderFailure α)) :
    Activity σ (Except ServiceError α) := do
  pure ((← activity).mapError (ServiceError.ofFailure call))

/-- The registry of the offered locations, when they form a hierarchy. -/
def registryOf (offered : List Location) : Except LocationError Registry := do
  let registry ← Registry.ofList offered
  registry.validate
  pure registry

/-- The catalog of what a provider offers. -/
def catalogOf (offers : List Image × List Size × List Location) : Except ServiceError Catalog :=
  match registryOf offers.2.2 with
  | .error error => .error (.location error)
  | .ok registry => .ok { images := offers.1, sizes := offers.2.1, locations := registry }

/-- Ask the provider for everything it offers; the three listings go on side by side. -/
def fetchCatalog (service : Service σ S) : Activity σ (Except ServiceError Catalog) := do
  let offers ← (calling .listImages service.provider.images).bothOrError
    ((calling .listSizes service.provider.sizes).bothOrError
      (calling .listLocations service.provider.locations))
  pure (offers.bind catalogOf)

/-- The cache of the service. -/
def cache (service : Service σ S) : CatalogCache σ :=
  { lifetime := service.settings.catalogLifetime, slot := service.catalogSlot }

/-- The current catalog. -/
def catalog (service : Service σ S) : Activity σ (Except ServiceError Catalog) :=
  service.cache.getOrLoad service.fetchCatalog

/-- The template that criteria select from the current catalog. -/
def resolve (service : Service σ S) (criteria : Criteria) :
    Activity σ (Except ServiceError Template) := do
  pure ((← service.catalog).bind fun catalog =>
    (criteria.resolve catalog).mapError ServiceError.noMatch)

/-- All nodes of the account. -/
def listAll (service : Service σ S) : Activity σ (Except ServiceError (List Node)) :=
  calling .listNodes (service.provider.list none)

/-- The nodes with a tag. -/
def listTagged (service : Service σ S) (tag : String) :
    Activity σ (Except ServiceError (List Node)) :=
  calling .listNodes (service.provider.list (some tag))

/-- The nodes that satisfy a condition. -/
def listMatching (service : Service σ S) (condition : Node → Bool) :
    Activity σ (Except ServiceError (List Node)) := do
  pure ((← service.listAll).map (List.filter condition))

/-! ## A plain service

Scripts that run on a plain service succeed without doing anything, so all that its operations
observe comes from the provider. -/

/-- A service whose sessions do nothing and whose ports are all open. -/
def plainService (provider : Provider σ) : Service σ Unit where
  provider := provider
  executor :=
    { transport :=
        { create := fun _ _ => ()
          connect := fun _ => .done (.ok (), ())
          execute := fun _ _ => .done (.ok { exitStatus := some 0 }, ())
          disconnect := fun _ => .done () }
      probe := fun _ => .done true
      freshToken := .done "token" }
  settings := {}
  catalogSlot := { view := fun _ => none, update := fun _ state => state }

/-- A node of a batch, without address or login. -/
def plainNode (id : NodeId) (state : NodeState) : Node :=
  { id := id, tag := "web", name := id, state := state, image := "image", location := "zone",
    publicAddresses := [], privateAddresses := [], credentials := none, metadata := .empty }

/-- Such a node with an address. -/
def reachableNode (id : NodeId) (state : NodeState) : Node :=
  { plainNode id state with publicAddresses := [.v4 198 51 100 1] }

/-- The failure of a provider that has no time for a call. -/
def busy : ProviderFailure := { kind := .transient, message := "busy" }

/-- The failure of a provider that does not know a call. -/
def unknownCall : ProviderFailure := { kind := .unsupported, message := "unknown call" }

end Service

end Fleet
