import Fleet.Table
import Fleet.Json.Basic

/-!
# Fields in order

The same document with the fields of every object in ascending order of their names; of several
fields of one name the last stays.
-/

namespace Fleet.Json

mutual

/-- The document with ordered fields. -/
def ordered : Json → Json
  | list items => list (orderedItems items)
  | object fields => object (Table.ofList (orderedFields fields)).entries
  | other => other

/-- The items of a list with ordered fields. -/
def orderedItems : List Json → List Json
  | [] => []
  | item :: rest => ordered item :: orderedItems rest

/-- The fields of an object with values whose fields are ordered. -/
def orderedFields : List (String × Json) → List (String × Json)
  | [] => []
  | (label, value) :: rest => (label, ordered value) :: orderedFields rest

end

end Fleet.Json
