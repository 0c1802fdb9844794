import Fleet.Activity.Gathered
import Fleet.Node.Basic
import Fleet.Provider.Failure
import Fleet.Template.Basic

/-!
# Providers

What a provider of nodes can do, over a state `σ` of the world. Single calls are primitive. The
batch calls have a usual form: all creations side by side, and reboots or destructions side by side
for every node of a tag that is not terminated when the tag is listed. A provider may have batch
calls of its own.
-/

namespace Fleet

/-- The results of a batch call, by node. -/
abbrev BatchResults := List (NodeId × Except ProviderFailure Unit)

/-- Call an operation side by side for every live node among the listed ones. -/
def forLiveNodes
    {σ : Type}
    (listing : Activity σ (Except ProviderFailure (List Node)))
    (operation : NodeId → Activity σ (Except ProviderFailure Unit)) :
    Activity σ (Except ProviderFailure BatchResults) := do
  match ← listing with
  | .error failure => pure (.error failure)
  | .ok nodes =>
    let targets := (nodes.filter Node.isLive).map Node.id
    let results ← Activity.gathered (targets.map fun id => do
      let result ← operation id
      pure (id, result))
    pure (.ok results)

/-- A provider of nodes. -/
structure Provider (σ : Type) where
  /-- The name of the provider. -/
  name : String
  /-- The account to log in with on nodes whose record carries no credentials. -/
  loginAccount : Option String := none
  /-- Create a node with a tag from a template. -/
  create : String → Template → Activity σ (Except ProviderFailure Node)
  /-- List the nodes, or those with a tag. -/
  list : Option String → Activity σ (Except ProviderFailure (List Node))
  /-- Look a node up. -/
  get : NodeId → Activity σ (Except ProviderFailure Node)
  /-- Ask for a reboot. -/
  reboot : NodeId → Activity σ (Except ProviderFailure Unit)
  /-- Ask for the destruction of a node. -/
  destroy : NodeId → Activity σ (Except ProviderFailure Unit)
  /-- The images on offer. -/
  images : Activity σ (Except ProviderFailure (List Image))
  /-- The sizes on offer. -/
  sizes : Activity σ (Except ProviderFailure (List Size))
  /-- The locations in which nodes can be placed, with their owners. -/
  locations : Activity σ (Except ProviderFailure (List Location))
  /-- Create a number of nodes; there is one result for each. -/
  createMany : String → Nat → Template → Activity σ (List (Except ProviderFailure Node)) :=
    fun tag count template => Activity.gathered (List.replicate count (create tag template))
  /-- Ask for a reboot of every live node with a tag. -/
  rebootAll : String → Activity σ (Except ProviderFailure BatchResults) :=
    fun tag => forLiveNodes (list (some tag)) reboot
  /-- Ask for the destruction of every live node with a tag. -/
  destroyAll : String → Activity σ (Except ProviderFailure BatchResults) :=
    fun tag => forLiveNodes (list (some tag)) destroy

end Fleet
