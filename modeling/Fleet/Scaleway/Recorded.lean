import Fleet.Scaleway.Backend

/-!
# The interface with a record of its calls

An answer of the interface does not say what it was asked. A recording interface answers as the one
under it does, and puts every call on record before it is made. The record lies beside the state of
the world.
-/

namespace Fleet.Scaleway

variable {σ α : Type}

/-- A call of the interface. -/
inductive ApiCall where
  | createServer (order : ServerOrder)
  | act (id : String) (action : ServerAction)
  | deleteServer (id : String)
  | server (id : String)
  | servers (label : Option String) (page : Nat)
  | images (query : ImageQuery)
  | products
  deriving DecidableEq, Repr

/-- The calls so far. -/
abbrev ApiRecord := List ApiCall

/-- Put a call on record, and make it. -/
def ApiCall.making (call : ApiCall) (activity : Activity σ α) :
    Activity (σ × ApiRecord) α := do
  Activity.modify fun whole => (whole.1, whole.2 ++ [call])
  activity.focus (Part.first σ ApiRecord)

/-- The interface with a record of its calls. -/
def Api.recording (api : Api σ) : Api (σ × ApiRecord) where
  createServer order := (ApiCall.createServer order).making (api.createServer order)
  act id action := (ApiCall.act id action).making (api.act id action)
  deleteServer id := (ApiCall.deleteServer id).making (api.deleteServer id)
  server id := (ApiCall.server id).making (api.server id)
  servers label page := (ApiCall.servers label page).making (api.servers label page)
  images query := (ApiCall.images query).making (api.images query)
  products := ApiCall.products.making api.products

/-- The backend with a record of the calls that it makes. -/
def Backend.recording (backend : Backend σ) : Backend (σ × ApiRecord) where
  api := backend.api.recording
  config := backend.config
  logins :=
    { view whole := backend.logins.view whole.1
      update logins whole := (backend.logins.update logins whole.1, whole.2) }
  freshToken := backend.freshToken.focus (Part.first σ ApiRecord)

end Fleet.Scaleway
