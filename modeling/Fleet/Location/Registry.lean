import Fleet.Location.Basic
import Fleet.Table

/-!
# The registry of locations

A registry holds the locations of a provider by name. It is built only from locations with distinct
names whose owners are all among them, so a walk along owners inside a registry breaks off nowhere;
it may still run in a circle, and `ancestors` reports that. The root of a location is found by its
tier: a region lies directly under its provider, a zone under a region or the provider, a host one
tier deeper. `isSameOrChild` is the order by containment.
-/

namespace Fleet

/-- The locations of a provider by name. -/
structure Registry where
  /-- Each location under its own name. -/
  locations : Table Location
  deriving DecidableEq, Inhabited

namespace Registry

/-- The registry without locations. -/
def empty : Registry := ⟨Table.empty⟩

/-- The number of locations. -/
def size (registry : Registry) : Nat :=
  registry.locations.size

/-- All locations, by name. -/
def toList (registry : Registry) : List Location :=
  registry.locations.values

/-- The location with a name. -/
def get? (registry : Registry) (id : LocationId) : Option Location :=
  registry.locations.find? id

/-- The location with a name, or the error that there is none. -/
def require (registry : Registry) (id : LocationId) : Except LocationError Location :=
  match registry.get? id with
  | some location => .ok location
  | none => .error (.unknown id)

/-- The location that owns another; nothing at the top of the hierarchy. -/
def owner (registry : Registry) (location : Location) : Except LocationError (Option Location) :=
  match location.parent with
  | none => .ok none
  | some id =>
    match registry.get? id with
    | some found => .ok (some found)
    | none => .error (.danglingParent location.id id)

/-- The location that owns another, or the error that there is none. -/
def requiredOwner (registry : Registry) (location : Location) : Except LocationError Location := do
  match ← registry.owner location with
  | some found => pure found
  | none => .error (.missingParent location.id location.scope)

/-- The owners above a location, nearest first, met on a walk of at most so many steps that started
at a location with the given name. -/
def climb (registry : Registry) (start : LocationId) :
    Nat → Location → Except LocationError (List Location)
  | 0, location => do
    match ← registry.owner location with
    | none => pure []
    | some _ => .error (.cycle start)
  | steps + 1, location => do
    match ← registry.owner location with
    | none => pure []
    | some found =>
      if found.id = start then
        .error (.cycle start)
      else do
        let above ← registry.climb start steps found
        pure (found :: above)

/-- All owners above a location, nearest first. -/
def ancestors (registry : Registry) (location : Location) : Except LocationError (List Location) :=
  registry.climb location.id registry.size location

/-- The owner of a location, or the location itself at the top of the hierarchy. -/
def ownerOrSelf (registry : Registry) (location : Location) : Except LocationError Location := do
  pure ((← registry.owner location).getD location)

/-- The end of the walk from a location to its provider, as long as its tier makes it. -/
def walkToRoot (registry : Registry) (location : Location) : Except LocationError Location :=
  match location.scope with
  | .provider => .ok location
  | .region => registry.requiredOwner location
  | .zone => do registry.ownerOrSelf (← registry.requiredOwner location)
  | .host => do
    registry.ownerOrSelf (← registry.requiredOwner (← registry.requiredOwner location))

/-- The provider to which a location belongs. -/
def providerOf (registry : Registry) (location : Location) : Except LocationError Location := do
  let resolved ← registry.walkToRoot location
  if resolved.scope = .provider && resolved.parent.isNone then
    pure resolved
  else
    .error (.notAProvider location.id resolved.id)

/-- Whether every location belongs to a provider and lies under finitely many owners; the first
error, by name, when not. -/
def validate (registry : Registry) : Except LocationError Unit :=
  registry.toList.forM fun location => do
    discard (registry.providerOf location)
    discard (registry.ancestors location)

/-- Add a location, unless it owns itself or its name is taken. -/
def add (registry : Registry) (location : Location) : Except LocationError Registry :=
  if location.parent = some location.id then
    .error (.selfParent location.id)
  else if registry.locations.contains location.id then
    .error (.duplicate location.id)
  else
    .ok ⟨registry.locations.insert location.id location⟩

/-- The registry of a list of locations: each is added in turn, and then every owner must exist. -/
def ofList (locations : List Location) : Except LocationError Registry := do
  let registry ← locations.foldlM add empty
  registry.toList.forM fun location => discard (registry.owner location)
  pure registry

/-- Whether a location is another one or lies below it. -/
def isSameOrChild (registry : Registry) (candidate expected : LocationId) :
    Except LocationError Bool :=
  if candidate = expected then
    .ok true
  else do
    let location ← registry.require candidate
    let above ← registry.ancestors location
    pure (above.any fun ancestor => ancestor.id == expected)

/-- The locations that another one owns directly, by name. -/
def childrenOf (registry : Registry) (id : LocationId) : List Location :=
  registry.toList.filter fun location => location.parent == some id

/-- The locations of a tier, by name. -/
def ofScope (registry : Registry) (scope : Scope) : List Location :=
  registry.toList.filter fun location => location.scope == scope

/-- Where nodes are placed unless asked otherwise: the first zone, else the first region, else the
first provider. -/
def defaultLocation (registry : Registry) : Option Location :=
  [Scope.zone, .region, .provider].findSome? fun scope => (registry.ofScope scope).head?

/-- All locations in the order in which they are tried: the default, then zones, regions, providers
and hosts. -/
def searchOrder (registry : Registry) : List Location :=
  let preferred := registry.defaultLocation
  preferred.toList ++
    [Scope.zone, .region, .provider, .host].flatMap fun scope =>
      (registry.ofScope scope).filter fun location =>
        preferred.all fun first => first.id != location.id

@[simp]
theorem isSameOrChild_self
    (registry : Registry)
    (id : LocationId) :
    registry.isSameOrChild id id = .ok true := by
  simp [isSameOrChild]

end Registry

end Fleet
