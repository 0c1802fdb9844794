import Fleet.Rehearsal.Network
import Fleet.Service.Basic
import Fleet.Token

/-!
# The world of a rehearsal

The state in which services are rehearsed: the state of a provider, a network, a source of tokens,
and the catalog of each service. Each part is reached by its place in the world.
-/

namespace Fleet.Rehearsal

/-- The state of a rehearsal with a provider whose own state is `π`. -/
structure World (π : Type) where
  provider : π
  network : Network := {}
  tokens : TokenSupply := { label := 2 }
  /-- The catalogs held by the services, by their number. -/
  catalogs : List (Option Snapshot) := []

namespace World

variable {π : Type}

/-- The place of the provider's state. -/
def providerPart : Part (World π) π where
  view world := world.provider
  update provider world := { world with provider := provider }

/-- The place of the network. -/
def networkPart : Part (World π) Network where
  view world := world.network
  update network world := { world with network := network }

/-- The place of the catalog of a service. -/
def catalogPart (number : Nat) : Part (World π) (Option Snapshot) where
  view world := (world.catalogs[number]?).join
  update snapshot world := { world with catalogs := world.catalogs.set number snapshot }

/-- A token from the world's source. -/
def freshToken : Activity (World π) String :=
  Activity.perform fun _ world =>
    let (token, tokens) := world.tokens.draw
    (token, { world with tokens := tokens })

/-- What scripts are run with over the rehearsed network; `accepts` decides about logins. -/
def executor (accepts : World π → Address → Credentials → Bool) :
    Executor (World π) Login where
  transport := transport networkPart accepts
  probe := probe networkPart
  freshToken := freshToken

/-- A service over a provider and the rehearsed network; `accepts` decides about logins. -/
def service
    (provider : Provider (World π))
    (settings : ServiceSettings)
    (number : Nat)
    (accepts : World π → Address → Credentials → Bool) :
    Service (World π) Login where
  provider := provider
  executor := executor accepts
  settings := settings
  catalogSlot := catalogPart number

end World

end Fleet.Rehearsal
