import Fleet.Memory.Account
import Fleet.Provider.Basic

/-!
# The provider in memory

A client of an account in memory as a provider. Every call is one operation on the account and takes
no time; the client's identity and secret are checked on every call.
-/

namespace Fleet.Memory

variable {σ α : Type}

/-- An operation of a client as an activity. -/
def operating
    (place : Part σ Account)
    (client : Client)
    (operation : Operation α) :
    Activity σ (Except ProviderFailure α) :=
  Activity.focus place <| Activity.perform fun _ account =>
    let (result, after) := Account.authorized client operation account
    (result.mapError AccountError.toFailure, after)

/-- The provider that a client of an account sees. -/
def provider (place : Part σ Account) (client : Client) : Provider σ where
  name := providerName
  loginAccount := some Account.loginAccount
  create tag template := operating place client (Account.create tag template)
  list tag := operating place client (Account.list tag)
  get id := operating place client (Account.get id)
  reboot id := operating place client (Account.reboot id)
  destroy id := operating place client (Account.destroy id)
  images := operating place client (Account.readCatalog Catalog.images)
  sizes := operating place client (Account.readCatalog Catalog.sizes)
  locations := operating place client (Account.readCatalog fun catalog => catalog.locations.toList)

end Fleet.Memory
