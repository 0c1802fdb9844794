import Fleet.Config.EnvironmentValue
import Fleet.Table
import Fleet.Text.Letters
import Fleet.Text.Search

/-!
# Layers of values

Configured values come in layers: environment variables lie above the settings file, and the file
lies above what is built in. A variable with a given lead sets the key that follows the lead; the
case of letters does not count. Two underscores, or a point, divide a key into the key of a table
and a key inside it.
-/

namespace Fleet.Config

/-- Values by key. -/
abbrev Layer := Table Scalar

/-- The characters of a key with a point for every two underscores. -/
def withPoints : List Char → List Char
  | '_' :: '_' :: rest => '.' :: withPoints rest
  | character :: rest => character :: withPoints rest
  | [] => []

/-- The keys, from the outermost inwards, that a variable with a given lead sets. -/
def keysOf (lead name : String) : Option (List String) :=
  (Text.textAfter (Text.lowerCase lead) (Text.lowerCase (Text.trim name))).map fun rest =>
    (Text.piecesAt (· == '.') (withPoints rest.toList)).map String.ofList

/-- What a variable with a given lead sets: a key to its value, or to a table. -/
def entryOf (lead name value : String) : Option (String × Scalar) :=
  match keysOf lead name with
  | some (key :: inner) =>
    if (key :: inner).any String.isEmpty then none
    else some (key, if inner.isEmpty then Scalar.ofText value else .other)
  | _ => none

/-- The layer of the environment variables with a given lead. -/
def Layer.ofEnvironment (lead : String) (environment : Table String) : Layer :=
  Table.ofList (environment.entries.filterMap fun (name, value) => entryOf lead name value)

/-- The value for a key in the uppermost layer that has one. -/
def valueIn (layers : List Layer) (key : String) : Option Scalar :=
  layers.findSome? fun layer => layer.find? key

/-- The natural number for a key, or else the given one; no other value will do. -/
def naturalIn
    (layers : List Layer)
    (bound : Nat)
    (key : String)
    (fallback : Nat) :
    Option Nat :=
  match valueIn layers key with
  | none => some fallback
  | some (.whole (.ofNat value)) => if value ≤ bound then some value else none
  | some _ => none

/-- The text for a key, if there is a value; no other value will do. -/
def textIn (layers : List Layer) (key : String) : Option (Option String) :=
  match valueIn layers key with
  | none => some none
  | some (.text value) => some (some value)
  | some _ => none

end Fleet.Config
