import Fleet.Json.Basic
import Fleet.Text.Decimal
import Fleet.Text.Digit

/-!
# Reading documents

The strict grammar of JSON: blanks are the space, the tab and the two line ends; numbers have no
leading zeros; strings hold no bare control characters. A string in which a surrogate code stands
outside a pair is well formed, but it is no text. A reader of a part gives the part and the
characters after it, and nothing when there is no such part. Every call of a reader spends a unit of
an allowance, and the allowance computed from the length of the text is never used up, since each
value takes at least one character.
-/

namespace Fleet.Json

/-- The characters after leading blanks. -/
def skipBlanks : List Char → List Char :=
  List.dropWhile fun character =>
    character == ' ' || character == '\n' || character == '\t' || character == '\r'

/-- The character written by one or two codes, after the first `\u`; no character when a surrogate
code stands alone. -/
def readCodes (characters : List Char) : Option (Option Char × List Char) := do
  let (first, rest) ← Text.readCode 4 characters
  if 0xD800 ≤ first && first < 0xDC00 then
    match rest with
    | '\\' :: 'u' :: more =>
      match Text.readCode 4 more with
      | some (second, remaining) =>
        if 0xDC00 ≤ second && second < 0xE000 then
          pure
            (Text.characterOf (0x10000 + (first - 0xD800) * 0x400 + (second - 0xDC00)), remaining)
        else
          pure (none, rest)
      | none => pure (none, rest)
    | _ => pure (none, rest)
  else
    pure (Text.characterOf first, rest)

/-- The character of a two-character escape. -/
def simpleEscape : Char → Option Char
  | '\x22' => some '\x22'
  | '\\' => some '\\'
  | '/' => some '/'
  | 'b' => some '\x08'
  | 'f' => some '\x0c'
  | 'n' => some '\n'
  | 'r' => some '\r'
  | 't' => some '\t'
  | _ => none

/-- The characters read so far, last first, with one more; nothing once one of them was no
character. -/
def extended (read : Option (List Char)) (character : Option Char) : Option (List Char) :=
  read.bind fun characters => character.map fun next => next :: characters

/-- The rest of a string after its opening quote, with its text if it has one. -/
def readString (read : Option (List Char)) :
    Nat → List Char → Option (Option String × List Char)
  | 0, _ => none
  | allowance + 1, characters =>
    match characters with
    | [] => none
    | '\x22' :: rest => some (read.map fun found => String.ofList found.reverse, rest)
    | '\\' :: 'u' :: rest =>
      match readCodes rest with
      | some (character, remaining) => readString (extended read character) allowance remaining
      | none => none
    | '\\' :: escape :: rest =>
      match simpleEscape escape with
      | some character => readString (extended read (some character)) allowance rest
      | none => none
    | character :: rest =>
      if character.toNat < 0x20 || character = '\\' then none
      else readString (extended read (some character)) allowance rest

/-- The string after an opening quote, and what follows it. -/
def stringAndRest (characters : List Char) : Option (Option String × List Char) :=
  readString (some []) (characters.length + 1) characters

/-- The digits at the start of the characters, and what follows. -/
def digitsAndRest (characters : List Char) : List Char × List Char :=
  characters.span Char.isDigit

/-- The whole part of a number: a single zero, or digits that do not start with one. -/
def readWhole (characters : List Char) : Option (List Char × List Char) :=
  match digitsAndRest characters with
  | ([], _) => none
  | ('0' :: _ :: _, _) => none
  | whole => some whole

/-- The fraction of a number with its point, empty when there is none. -/
def readFraction : List Char → Option (List Char × List Char)
  | '.' :: rest =>
    match digitsAndRest rest with
    | ([], _) => none
    | (digits, remaining) => some ('.' :: digits, remaining)
  | characters => some ([], characters)

/-- The exponent of a number with its mark and sign, empty when there is none. -/
def readExponent : List Char → Option (List Char × List Char)
  | [] => some ([], [])
  | mark :: rest =>
    if mark = 'e' || mark = 'E' then
      let (sign, digitsOn) := match rest with
        | '+' :: more => (['+'], more)
        | '-' :: more => (['-'], more)
        | _ => ([], rest)
      match digitsAndRest digitsOn with
      | ([], _) => none
      | (digits, remaining) => some (mark :: (sign ++ digits), remaining)
    else
      some ([], mark :: rest)

/-- The integer with a sign and digits, unless it is a negative zero or too large for a word. -/
def wholeNumber (negative : Bool) (digits : List Char) : Option Json := do
  let value ← Text.readDigits digits
  if negative then
    if 0 < value && value ≤ Text.largestSigned64 + 1 then some (integer (-(value : Int)))
    else none
  else if value ≤ Text.largest64 then some (integer value) else none

/-- The number at the start of the characters. -/
def readNumber (characters : List Char) : Option (Json × List Char) := do
  let (negative, unsigned) := match characters with
    | '-' :: rest => (true, rest)
    | _ => (false, characters)
  let (whole, afterWhole) ← readWhole unsigned
  let (fraction, afterFraction) ← readFraction afterWhole
  let (exponent, rest) ← readExponent afterFraction
  let written := String.ofList ((if negative then ['-'] else []) ++ whole ++ fraction ++ exponent)
  if fraction.isEmpty && exponent.isEmpty then
    pure ((wholeNumber negative whole).getD (decimal written), rest)
  else
    pure (decimal written, rest)

mutual

/-- The value at the start of the characters. -/
def readValue : Nat → List Char → Option (Json × List Char)
  | 0, _ => none
  | allowance + 1, characters =>
    match skipBlanks characters with
    | 'n' :: 'u' :: 'l' :: 'l' :: rest => some (null, rest)
    | 't' :: 'r' :: 'u' :: 'e' :: rest => some (bool true, rest)
    | 'f' :: 'a' :: 'l' :: 's' :: 'e' :: rest => some (bool false, rest)
    | '\x22' :: rest =>
      (stringAndRest rest).map fun (value, remaining) => ((value.map text).getD unpaired, remaining)
    | '[' :: rest =>
      match skipBlanks rest with
      | ']' :: remaining => some (list [], remaining)
      | items => (readItems allowance items).map fun (values, remaining) => (list values, remaining)
    | '\x7b' :: rest =>
      match skipBlanks rest with
      | '\x7d' :: remaining => some (object [], remaining)
      | fields =>
        (readFields allowance fields).map fun (values, remaining) =>
          ((values.map object).getD unpaired, remaining)
    | other => readNumber other

/-- The items of a list up to its closing bracket. -/
def readItems : Nat → List Char → Option (List Json × List Char)
  | 0, _ => none
  | allowance + 1, characters => do
    let (item, rest) ← readValue allowance characters
    match skipBlanks rest with
    | ',' :: more => do
      let (items, remaining) ← readItems allowance more
      pure (item :: items, remaining)
    | ']' :: remaining => pure ([item], remaining)
    | _ => none

/-- The fields of an object up to its closing brace; none when a label is no text. -/
def readFields : Nat → List Char → Option (Option (List (String × Json)) × List Char)
  | 0, _ => none
  | allowance + 1, characters => do
    match skipBlanks characters with
    | '\x22' :: labelled => do
      let (label, afterLabel) ← stringAndRest labelled
      match skipBlanks afterLabel with
      | ':' :: valued => do
        let (value, rest) ← readValue allowance valued
        let first := label.map fun name => (name, value)
        match skipBlanks rest with
        | ',' :: more => do
          let (fields, remaining) ← readFields allowance more
          pure (first.bind fun field => fields.map fun others => field :: others, remaining)
        | '\x7d' :: remaining => pure (first.map fun field => [field], remaining)
        | _ => none
      | _ => none
    | _ => none

end

/-- The document that a text writes. -/
def ofText (source : String) : Option Json :=
  let characters := source.toList
  match readValue (2 * characters.length + 2) characters with
  | some (document, rest) => if (skipBlanks rest).isEmpty then some document else none
  | none => none

end Fleet.Json
