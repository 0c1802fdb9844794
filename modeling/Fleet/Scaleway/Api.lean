import Fleet.Activity.Basic
import Fleet.Scaleway.Error
import Fleet.Scaleway.Offer
import Fleet.Scaleway.Server

/-!
# The interface

The calls of the interface for one zone, over a state `σ` of the world. Listings of servers come in
pages of a fixed size, counted from one.
-/

namespace Fleet.Scaleway

/-- What a server is made from. -/
structure ServerOrder where
  name : String
  size : String
  image : String
  project : String
  labels : List String
  deriving DecidableEq, Repr

/-- A server that has just been made. -/
structure Created where
  id : String
  state : String
  allowedActions : List String
  publicAddress : Option String
  deriving DecidableEq, Repr

/-- What can be asked of a server. -/
inductive ServerAction where
  | powerOn
  | reboot
  | terminate
  deriving DecidableEq, Repr

/-- The word for an action. -/
def ServerAction.name : ServerAction → String
  | powerOn => "poweron"
  | reboot => "reboot"
  | terminate => "terminate"

/-- Which images are asked for. -/
structure ImageQuery where
  isPublic : Bool
  project : Option String := none
  architecture : String
  organization : Option String := none
  deriving DecidableEq, Repr

/-- The number of servers on a full page. -/
def pageSize : Nat := 100

/-- The calls of the interface. -/
structure Api (σ : Type) where
  /-- Make a server. -/
  createServer : ServerOrder → Activity σ (Except ScalewayError Created)
  /-- Ask a server to do something. -/
  act : String → ServerAction → Activity σ (Except ScalewayError Unit)
  /-- Delete a server. -/
  deleteServer : String → Activity σ (Except ScalewayError Unit)
  /-- Look a server up. -/
  server : String → Activity σ (Except ScalewayError Server)
  /-- A page of the servers, or of those with a label. -/
  servers : (label : Option String) → (page : Nat) →
    Activity σ (Except ScalewayError (List Server))
  /-- List images. -/
  images : ImageQuery → Activity σ (Except ScalewayError (List ImageRecord))
  /-- List products by name. -/
  products : Activity σ (Except ScalewayError (Table Product))

end Fleet.Scaleway
