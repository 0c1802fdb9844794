import Fleet.Identifier
import Fleet.Text.Blank
import Fleet.Text.Letters

/-!
# Locations

A provider describes where nodes can be placed by a hierarchy of locations: the provider itself,
regions, zones and single hosts. A location names the location that owns it. Names are resolved
within a registry, so a location by itself says nothing about whether its owner exists.
-/

namespace Fleet

/-- The tier of a location, from the widest to the narrowest. -/
inductive Scope where
  | provider
  | region
  | zone
  | host
  deriving DecidableEq, Repr

namespace Scope

/-- The name of a tier. -/
def name : Scope → String
  | provider => "provider"
  | region => "region"
  | zone => "zone"
  | host => "host"

/-- The tier with a given name. -/
def ofName? : String → Option Scope
  | "provider" => some provider
  | "region" => some region
  | "zone" => some zone
  | "host" => some host
  | _ => none

end Scope

/-- A place where nodes can be put. -/
structure Location where
  /-- The name of the location, unique within its provider. -/
  id : LocationId
  /-- The tier of the location. -/
  scope : Scope
  /-- A description for people. -/
  description : String
  /-- The location that owns this one, if any does. -/
  parent : Option LocationId
  deriving DecidableEq, Repr

namespace Location

/-- A provider, which no other location owns. -/
def root (id : LocationId) (description : String) : Location :=
  { id := id, scope := .provider, description := description, parent := none }

/-- A location owned by another. -/
def childOf
    (owner : Location)
    (id : LocationId)
    (scope : Scope)
    (description : String) :
    Location :=
  { id := id, scope := scope, description := description, parent := some owner.id }

end Location

/-- Why a hierarchy of locations is refused, or a walk through it ends without an answer. -/
inductive LocationError where
  /-- The text names no tier. -/
  | unsupportedScope (text : String)
  /-- The location names itself as its owner. -/
  | selfParent (id : LocationId)
  /-- Two locations share the name. -/
  | duplicate (id : LocationId)
  /-- No location has the name. -/
  | unknown (id : LocationId)
  /-- The owner that the location names does not exist. -/
  | danglingParent (id parent : LocationId)
  /-- A location of this tier needs an owner and has none. -/
  | missingParent (id : LocationId) (scope : Scope)
  /-- The walk to the root ended at a location that is no root provider. -/
  | notAProvider (id resolved : LocationId)
  /-- Following owners never ends. -/
  | cycle (id : LocationId)
  deriving DecidableEq, Repr

/-- The wording of the error. -/
def LocationError.message : LocationError → String
  | unsupportedScope text => s!"unsupported location scope: {text}"
  | selfParent id => s!"location {id} is its own parent"
  | duplicate id => s!"location {id} is defined more than once"
  | unknown id => s!"location {id} is not registered"
  | danglingParent id parent => s!"location {id} refers to unknown parent {parent}"
  | missingParent id scope => s!"{scope.name} location {id} has no parent"
  | notAProvider id resolved =>
    s!"location {id} resolves to {resolved}, which is not a root provider"
  | cycle id => s!"parent chain of location {id} does not terminate"

namespace Scope

/-- The tier that a text names, blanks around it and the case of its letters aside. -/
def ofText (text : String) : Except LocationError Scope :=
  let name := Text.lowerCase (Text.trim text)
  match ofName? name with
  | some scope => .ok scope
  | none => .error (.unsupportedScope name)

theorem ofName?_name (scope : Scope) : ofName? scope.name = some scope := by
  cases scope <;> rfl

end Scope

end Fleet
