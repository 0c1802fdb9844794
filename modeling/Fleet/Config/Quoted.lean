import Fleet.Text.Digit

/-!
# Quoted values and keys

A value between double quotes stands on one line. A backslash starts an escape: a letter for one of
the common control characters, a quote or a backslash for itself, or a code of four or eight
hexadecimal digits. Between single quotes a backslash is a character like any other. No control
character but the tab may stand in a value. A key without quotes consists of ASCII letters, digits,
underscores and hyphens.
-/

namespace Fleet.Config

/-- A configured value. -/
inductive Scalar where
  | whole (value : Int)
  | truth (value : Bool)
  | text (value : String)
  /-- A value that no setting takes, such as a list, a table, or a number with a fraction. -/
  | other
  deriving DecidableEq, Repr

/-- A character that stands for itself. -/
def standsForItself (character : Char) : Bool :=
  character == '\t' || (0x20 ≤ character.toNat && character.toNat != 0x7F)

/-- The character that exactly so many hexadecimal digits write, and what follows. -/
def readCoded (count : Nat) (characters : List Char) : Option (Char × List Char) := do
  let (code, rest) ← Text.readCode count characters
  let character ← Text.characterOf code
  pure (character, rest)

/-- The character of the escape after a backslash, and what follows. -/
def readEscape : List Char → Option (Char × List Char)
  | '\x22' :: rest => some ('\x22', rest)
  | '\\' :: rest => some ('\\', rest)
  | 'b' :: rest => some ('\x08', rest)
  | 'f' :: rest => some ('\x0c', rest)
  | 'n' :: rest => some ('\n', rest)
  | 'r' :: rest => some ('\r', rest)
  | 't' :: rest => some ('\t', rest)
  | 'u' :: rest => readCoded 4 rest
  | 'U' :: rest => readCoded 8 rest
  | _ => none

/-- The rest of a text after its opening quote; `read` holds the characters so far, last first. -/
def readQuotedAfter (read : List Char) : Nat → List Char → Option (String × List Char)
  | 0, _ => none
  | _ + 1, [] => none
  | _ + 1, '\x22' :: rest => some (String.ofList read.reverse, rest)
  | allowance + 1, '\\' :: rest =>
    match readEscape rest with
    | some (character, remaining) => readQuotedAfter (character :: read) allowance remaining
    | none => none
  | allowance + 1, character :: rest =>
    if standsForItself character then readQuotedAfter (character :: read) allowance rest else none

/-- The text after an opening quote, and what follows the closing one. -/
def readQuoted (characters : List Char) : Option (String × List Char) :=
  readQuotedAfter [] (characters.length + 1) characters

/-- The rest of a text after its opening single quote, in which every character stands for itself.
-/
def readPlainQuoted (read : List Char) : List Char → Option (String × List Char)
  | [] => none
  | '\x27' :: rest => some (String.ofList read.reverse, rest)
  | character :: rest =>
    if standsForItself character then readPlainQuoted (character :: read) rest else none

/-- A character of a key without quotes. -/
def isKeyCharacter (character : Char) : Bool :=
  character.isAlphanum || character == '_' || character == '-'

/-- A key without quotes, and what follows. -/
def readPlainKey (characters : List Char) : Option (String × List Char) :=
  let (key, rest) := characters.span isKeyCharacter
  if key.isEmpty then none else some (String.ofList key, rest)

end Fleet.Config
