import Fleet.Json.Basic
import Fleet.Text.Decimal

/-!
# Records in documents

A record has named fields. As an object it may hold fields of other names, which do not count, but
none of its own fields twice; as a list it holds the values of its first fields in their order, or
of all of them when that is asked for. A value of the wrong form makes the whole record unreadable,
and `null` stands only for an optional value that is missing.
-/

namespace Fleet.Json

/-- The fields of a record that are there, by name. -/
abbrev Record := List (String × Json)

/-- The fields of a record with given names. -/
def record? (names : List String) : Json → Option Record
  | object fields =>
    let own := fields.filter fun field => names.contains field.1
    if (own.map Prod.fst).Nodup then some own else none
  | list items => if items.length ≤ names.length then some (names.zip items) else none
  | _ => none

/-- The fields of a record that as a list holds all its values, a missing one being `null`. -/
def fullRecord? (names : List String) (json : Json) : Option Record :=
  match json with
  | list items => if items.length = names.length then json.record? names else none
  | _ => json.record? names

/-- The text that a document is. -/
def text? : Json → Option String
  | text value => some value
  | _ => none

/-- The truth value that a document is. -/
def bool? : Json → Option Bool
  | bool value => some value
  | _ => none

/-- The natural number that a document is, up to a bound. -/
def natural? (bound : Nat) : Json → Option Nat
  | integer (.ofNat value) => if value ≤ bound then some value else none
  | _ => none

/-- The items of a list that all have a form. -/
def listOf? {α : Type} (decode : Json → Option α) : Json → Option (List α)
  | list items => items.mapM decode
  | _ => none

/-- The fields of an object whose values all have a form. -/
def objectOf? {α : Type} (decode : Json → Option α) : Json → Option (List (String × α))
  | object fields =>
    fields.mapM fun (name, value) => (decode value).map fun result => (name, result)
  | _ => none

/-- A value that may be `null`. -/
def optional? {α : Type} (decode : Json → Option α) : Json → Option (Option α)
  | null => some none
  | json => (decode json).map some

namespace Record

variable {α : Type}

/-- The value of a field that must be there. -/
def required? (record : Record) (name : String) (decode : Json → Option α) : Option α :=
  (fieldIn name record).bind decode

/-- The value of a field, or the given one when it is not there. -/
def withDefault?
    (record : Record)
    (name : String)
    (decode : Json → Option α)
    (fallback : α) :
    Option α :=
  match fieldIn name record with
  | none => some fallback
  | some json => decode json

/-- The value of an optional field. -/
def maybe? (record : Record) (name : String) (decode : Json → Option α) : Option (Option α) :=
  record.withDefault? name (optional? decode) none

/-- Fields with given names are there and have a form. -/
def hold? (record : Record) (names : List String) (decode : Json → Option α) : Option Unit := do
  let _ ← names.mapM fun name => record.required? name decode
  pure ()

/-- Fields with given names have a form, when they are there. -/
def mayHold? (record : Record) (names : List String) (decode : Json → Option α) :
    Option Unit := do
  let _ ← names.mapM fun name => record.maybe? name decode
  pure ()

end Record

end Fleet.Json
