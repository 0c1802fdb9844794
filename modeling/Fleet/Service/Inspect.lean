import Fleet.Service.Basic

/-!
# Looking at a known node again

A fresh record must fit the one that the caller holds: name, tag, image and location never change,
and the state must be one that the lifecycle permits as the next.
-/

namespace Fleet.Service

variable {σ S : Type}

/-- The first field in which a fresh record does not fit a known one, as an error. -/
def checkFresh (known fresh : Node) : Except ServiceError Node :=
  if fresh.id ≠ known.id then
    .error (.inconsistent known.id "id" known.id fresh.id)
  else if fresh.tag ≠ known.tag then
    .error (.inconsistent known.id "tag" known.tag fresh.tag)
  else if fresh.image ≠ known.image then
    .error (.inconsistent known.id "image" known.image fresh.image)
  else if fresh.location ≠ known.location then
    .error (.inconsistent known.id "location" known.location fresh.location)
  else if known.state.mayBecome fresh.state then
    .ok fresh
  else
    .error (.inconsistent known.id "state" s!"a state reachable from {known.state.name}"
      fresh.state.name)

/-- The current record of a known node. -/
def inspect (service : Service σ S) (known : Node) : Activity σ (Except ServiceError Node) := do
  pure ((← calling .getNode (service.provider.get known.id)).bind (checkFresh known))

end Fleet.Service
