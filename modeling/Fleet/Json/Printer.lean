import Fleet.Json.Basic
import Fleet.Text.Decimal

/-!
# Writing documents

The compact text of a document: no blanks, fields in their order, and in strings a short escape for
quotes, backslashes and the common control characters, a four-digit code for the other control
characters, and every other character as it is.
-/

namespace Fleet.Json

/-- The characters that write one character of a string. -/
def writeCharacter (character : Char) : String :=
  if character = '\x22' then "\\\""
  else if character = '\\' then "\\\\"
  else if character = '\n' then "\\n"
  else if character = '\r' then "\\r"
  else if character = '\t' then "\\t"
  else if character = '\x08' then "\\b"
  else if character = '\x0c' then "\\f"
  else if character.toNat < 0x20 then "\\u" ++ Text.paddedHex 4 character.toNat
  else character.toString

/-- A string between quotes. -/
def writeText (text : String) : String :=
  text.foldl (fun written character => written ++ writeCharacter character) "\"" ++ "\""

mutual

/-- The compact text of a document; what is no text counts as missing. -/
def render : Json → String
  | null | unpaired => "null"
  | bool value => if value then "true" else "false"
  | integer value => toString value
  | decimal written => written
  | text value => writeText value
  | list items => "[" ++ ",".intercalate (renderItems items) ++ "]"
  | object fields => "\x7b" ++ ",".intercalate (renderFields fields) ++ "\x7d"

/-- The texts of the items of a list. -/
def renderItems : List Json → List String
  | [] => []
  | item :: rest => render item :: renderItems rest

/-- The texts of the fields of an object. -/
def renderFields : List (String × Json) → List String
  | [] => []
  | (label, value) :: rest => (writeText label ++ ":" ++ render value) :: renderFields rest

end

end Fleet.Json
