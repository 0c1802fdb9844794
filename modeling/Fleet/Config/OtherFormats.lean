import Fleet.Config.SettingsFile
import Fleet.Json.Parser

/-!
# Settings files of other formats

The ending of its name tells the format of a settings file. A document holds the settings as the
fields of one object; a plain list holds a key and a value on each line, with a colon and a blank
between them. Every other file has the usual format.
-/

namespace Fleet.Config

/-- The value of a document. -/
def Scalar.ofJson : Json → Scalar
  | .bool value => .truth value
  | .integer value => .whole value
  | .text value => .text value
  | _ => .other

/-- The layer that a document writes. -/
def Layer.ofDocument? (text : String) : Option Layer :=
  match Json.ofText text with
  | some (.object fields) =>
    some (Table.ofList (fields.map fun (key, value) => (key, Scalar.ofJson value)))
  | _ => none

/-- The characters before a comment, which follows a blank. -/
def beforeRemark (afterBlank : Bool) : List Char → List Char
  | [] => []
  | character :: rest =>
    if afterBlank && character == '#' then []
    else character :: beforeRemark (isLineBlank character) rest

/-- What the characters after a colon stand for. -/
def Scalar.ofPlain? (characters : List Char) : Option Scalar :=
  match skipLineBlanks characters with
  | '\x22' :: rest => quoted (readQuoted rest)
  | '\x27' :: rest => quoted (readPlainQuoted [] rest)
  | written =>
    let word := Text.trimCharacters (beforeRemark true written)
    match word with
    | [] => some .other
    | ['t', 'r', 'u', 'e'] => some (.truth true)
    | ['f', 'a', 'l', 's', 'e'] => some (.truth false)
    | first :: _ =>
      if isFraction word then some .other
      else if "[]\x7b\x7d&*!|>%@,?#:\x60".toList.contains first then none
      else some (((wholeNumber? word).map Scalar.whole).getD (.text (String.ofList word)))
where
  /-- A text between quotes, when nothing but a comment follows. -/
  quoted (read : Option (String × List Char)) : Option Scalar :=
    match read with
    | some (value, rest) =>
      if (Text.trimCharacters (beforeRemark false rest)).isEmpty then some (.text value) else none
    | none => none

/-- The layer of lines with a key, a colon and a value each. -/
def readPlainLines : List (List Char) → Layer → Option Layer
  | [], layer => some layer
  | line :: rest, layer =>
    let written := beforeRemark true line
    if (Text.trimCharacters written).isEmpty || written == ['-', '-', '-'] then
      readPlainLines rest layer
    else
      match readKey line with
      | some (key, ':' :: value) =>
        if layer.contains key || !(value.isEmpty || value.head?.any isLineBlank) then none
        else
          match Scalar.ofPlain? value with
          | some scalar => readPlainLines rest (layer.insert key scalar)
          | none => none
      | _ => none

/-- The layer that a plain list writes. -/
def Layer.ofPlainList? (text : String) : Option Layer :=
  readPlainLines (Text.piecesAt (· == '\n') text.toList) Table.empty

/-- The ending of a file name, in lower case. -/
def endingOf (name : String) : Option String :=
  match Text.cutAtLast '.' name.toList with
  | some (_ :: _, ending) => some (Text.lowerCase (String.ofList ending))
  | _ => none

/-- The layer that a settings file with a name writes. -/
def Layer.ofFile? (name text : String) : Option Layer :=
  match endingOf name with
  | some "json" | some "json5" => ofDocument? text
  | some "yaml" | some "yml" => ofPlainList? text
  | _ => ofText? text

end Fleet.Config
