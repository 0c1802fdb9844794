import Fleet.Rehearsal.Wire
import Fleet.Rehearsal.World
import Fleet.Scaleway.Backend

/-!
# Backends over a rehearsed interface

Several backends use one interface; each remembers the logins of its own servers.
-/

namespace Fleet.Rehearsal

/-- The interface, and the logins that each backend remembers, by the backend's number. -/
structure Hosting where
  routes : Routes
  logins : List (Table Credentials)

namespace Hosting

/-- The place of the interface in the world. -/
def routesPart : Part (World Hosting) Routes where
  view world := world.provider.routes
  update routes world := { world with provider := { world.provider with routes := routes } }

/-- The place of the logins that a backend remembers. -/
def loginsPart (number : Nat) : Part (World Hosting) (Table Credentials) where
  view world := world.provider.logins.getD number Table.empty
  update logins world :=
    { world with
      provider := { world.provider with logins := world.provider.logins.set number logins } }

/-- A backend by its number. -/
def backend (config : ScalewayConfig) (number : Nat) : Scaleway.Backend (World Hosting) :=
  { api := Scaleway.Api.overExchange config (exchange routesPart)
    config := config
    logins := loginsPart number
    freshToken := World.freshToken }

end Hosting

end Fleet.Rehearsal
