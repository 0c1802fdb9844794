import Fleet.Text.Unprintable

/-!
# Quoted text

A quoted text stands between double quotes. Quotes, backslashes and the common control characters
have two-character escapes; any other unprintable character is written by its code in lower-case
hexadecimal between braces. A single quote is written as it is.
-/

namespace Fleet.Text

/-- An opening brace. -/
def braceOpen : String := "\x7b"

/-- A closing brace. -/
def braceClose : String := "\x7d"

/-- The characters that write one character inside quotes. -/
def escapeCharacter (character : Char) : List Char :=
  if character = '\x22' then ['\\', '\x22']
  else if character = '\\' then ['\\', '\\']
  else if character = '\n' then ['\\', 'n']
  else if character = '\r' then ['\\', 'r']
  else if character = '\t' then ['\\', 't']
  else if character = '\x00' then ['\\', '0']
  else if isUnprintable character then
    ['\\', 'u', '\x7b'] ++ Nat.toDigits 16 character.toNat ++ ['\x7d']
  else [character]

/-- A text between double quotes. -/
def quote (text : String) : String :=
  String.ofList ('\x22' :: text.toList.flatMap escapeCharacter ++ ['\x22'])

/-- An optional value in words: the value after `Some` in parentheses, or `None`. -/
def optional {α : Type} (write : α → String) : Option α → String
  | none => "None"
  | some value => "Some(" ++ write value ++ ")"

/-- A record in words: its name, then its named fields between braces. -/
def recordText (name : String) (fields : List (String × String)) : String :=
  name ++ " " ++ braceOpen ++ " " ++
    ", ".intercalate (fields.map fun (label, value) => label ++ ": " ++ value) ++
    " " ++ braceClose

end Fleet.Text
