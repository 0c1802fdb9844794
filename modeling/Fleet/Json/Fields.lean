import Fleet.Json.Basic

/-!
# Fields of documents

Reading the fields of an object with a value for those that are absent, where `null` counts as
absent, and a few documents that are built often.
-/

namespace Fleet.Json

/-- The value of a field that is there and not `null`. -/
def at? (json : Json) (name : String) : Option Json :=
  match json.field? name with
  | some null => none
  | found => found

/-- The text that a document is; empty for any other document. -/
def asText : Json → String
  | text value => value
  | _ => ""

/-- The natural number that a document is; zero for any other document. -/
def asNat : Json → Nat
  | integer value => value.toNat
  | _ => 0

/-- The truth value that a document is; false for any other document. -/
def asBool : Json → Bool
  | bool value => value
  | _ => false

/-- The items of a list; none for any other document. -/
def asList : Json → List Json
  | list items => items
  | _ => []

/-- The fields of an object; none for any other document. -/
def asFields : Json → List (String × Json)
  | object fields => fields
  | _ => []

/-- The text in a field, if there is one. -/
def textAt? (json : Json) (name : String) : Option String :=
  (json.at? name).map asText

/-- The text in a field, or else the given one. -/
def textAt (json : Json) (name fallback : String) : String :=
  (json.textAt? name).getD fallback

/-- The number in a field, or else the given one. -/
def natAt (json : Json) (name : String) (fallback : Nat) : Nat :=
  ((json.at? name).map asNat).getD fallback

/-- The truth value in a field, or else the given one. -/
def boolAt (json : Json) (name : String) (fallback : Bool) : Bool :=
  ((json.at? name).map asBool).getD fallback

/-- The value in a field, or else `null`. -/
def valueAt (json : Json) (name : String) : Json :=
  (json.at? name).getD null

/-- The items of the list in a field. -/
def itemsAt (json : Json) (name : String) : List Json :=
  (json.valueAt name).asList

/-- The item of a list at a position, or else `null`. -/
def item (json : Json) (position : Nat) : Json :=
  json.asList.getD position null

/-- A list of texts. -/
def texts (values : List String) : Json :=
  list (values.map text)

/-- The document of a value that may be missing. -/
def maybe {α : Type} (document : α → Json) (value : Option α) : Json :=
  (value.map document).getD null

/-- The document of an error: its name, its wording, and what else belongs to it. -/
def failure (name message : String) (more : List (String × Json)) : Json :=
  object ([("error", text name), ("message", text message)] ++ more)

/-- The document of a result, from documents of values and of errors. -/
def result {ε α : Type} (ofError : ε → Json) (ofValue : α → Json) : Except ε α → Json
  | .ok value => ofValue value
  | .error error => ofError error

/-- The word that stands for a success without a value. -/
def done {α : Type} (_ : α) : Json := text "ok"

end Fleet.Json
