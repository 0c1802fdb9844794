/-!
# Documents

A JSON document as a tree. A number without fraction and exponent that fits a word of 64 bits is an
integer; any other number keeps the text that writes it. The fields of an object keep their order
and may repeat, because a reader of a record has to notice a field that is given twice. A document
may write strings that are no text, because they hold half of a pair of surrogate codes; they can be
passed over but not read.
-/

namespace Fleet

/-- A JSON document. -/
inductive Json where
  | null
  | bool (value : Bool)
  | integer (value : Int)
  | decimal (text : String)
  | text (value : String)
  | list (items : List Json)
  | object (fields : List (String × Json))
  /-- A string that is no text, or an object with such a label. -/
  | unpaired
  deriving Repr, Inhabited

namespace Json

/-- The value of the first field with a name. -/
def fieldIn (name : String) : List (String × Json) → Option Json
  | [] => none
  | (label, value) :: rest => if label = name then some value else fieldIn name rest

/-- The value of a field of an object. -/
def field? (name : String) : Json → Option Json
  | object fields => fieldIn name fields
  | _ => none

/-- A text, or `null`. -/
def ofText? : Option String → Json
  | some value => text value
  | none => null

/-- A natural number. -/
def ofNat (value : Nat) : Json := integer value

end Json

end Fleet
