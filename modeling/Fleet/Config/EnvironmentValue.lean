import Fleet.Config.Quoted
import Fleet.Text.Blank
import Fleet.Text.Decimal

/-!
# Values of environment variables

In the environment every value is a text, and what it stands for is read off its letters, with
blanks around it left out. Truth values and whole numbers are written as they are, a text may stand
between quotes, a single character between single quotes, lists between brackets and tables between
braces. A text with commas that opens with none of these is a list. Whatever has no such form is a
text and stands for itself.
-/

namespace Fleet.Config

/-- A blank between the parts of a value. -/
def isGap (character : Char) : Bool :=
  character == ' ' || character == '\t' || character == '\n' || character == '\r' ||
    character == '\x0c'

/-- The characters after leading blanks. -/
def skipGaps : List Char → List Char :=
  List.dropWhile isGap

/-- A character at which a value without quotes ends. -/
def isSeparator (character : Char) : Bool :=
  character == ',' || character == '\x7b' || character == '\x7d' || character == '[' ||
    character == ']'

/-- Nothing, or a power of ten. -/
def isPower : List Char → Bool
  | [] => true
  | mark :: rest =>
    (mark == 'e' || mark == 'E') && (Text.readDigits (Text.withoutSign rest)).isSome

/-- A number with a decimal point: a digit stands on one side of the point at least. -/
def isDecimal (characters : List Char) : Bool :=
  let (whole, rest) := (Text.withoutSign characters).span Char.isDigit
  match rest with
  | '.' :: more =>
    let (fraction, power) := more.span Char.isDigit
    (!whole.isEmpty || !fraction.isEmpty) && isPower power
  | _ => false

/-- The whole number of the characters, when a word of 64 bits, signed or not, holds it. -/
def wholeNumber? : List Char → Option Int
  | '-' :: digits =>
    ((Text.readDigits digits).filter (· ≤ Text.largestSigned64 + 1)).map fun value =>
      -(value : Int)
  | characters => (Text.readBounded Text.largest64 characters).map Int.ofNat

/-- What a value without quotes stands for. -/
def Scalar.ofWord (characters : List Char) : Scalar :=
  let word := Text.trimCharacters characters
  if isDecimal word then .other
  else ((wholeNumber? word).map Scalar.whole).getD (.text (String.ofList word))

/-- A key of a table, and what follows. -/
def readTableKey : List Char → Option (String × List Char)
  | '\x22' :: rest => readQuoted rest
  | characters => readPlainKey characters

mutual

/-- The value at the start of the characters, and what follows the blanks after it. -/
def readWritten : Nat → List Char → Option (Scalar × List Char)
  | 0, _ => none
  | allowance + 1, characters =>
    let result : Option (Scalar × List Char) :=
      match skipGaps characters with
      | 't' :: 'r' :: 'u' :: 'e' :: rest => some (.truth true, rest)
      | 'f' :: 'a' :: 'l' :: 's' :: 'e' :: rest => some (.truth false, rest)
      | '\x22' :: rest => (readQuoted rest).map fun (value, more) => (.text value, more)
      | '\x27' :: character :: '\x27' :: rest => some (.text character.toString, rest)
      | '\x27' :: _ => none
      | '[' :: rest => (readWrittenItems allowance rest).map fun more => (.other, more)
      | '\x7b' :: rest => (readWrittenPairs allowance rest).map fun more => (.other, more)
      | word => some (Scalar.ofWord (word.takeWhile fun character => !isSeparator character),
          word.dropWhile fun character => !isSeparator character)
    result.map fun (value, rest) => (value, skipGaps rest)

/-- What follows the items of a list and its closing bracket. -/
def readWrittenItems : Nat → List Char → Option (List Char)
  | _, ']' :: rest => some rest
  | 0, _ => none
  | allowance + 1, characters =>
    match readWritten allowance characters with
    | some (_, ',' :: rest) => readWrittenItems allowance rest
    | some (_, ']' :: rest) => some rest
    | _ => none

/-- What follows the pairs of a table and its closing brace. -/
def readWrittenPairs : Nat → List Char → Option (List Char)
  | _, '\x7d' :: rest => some rest
  | 0, _ => none
  | allowance + 1, characters =>
    match readTableKey (skipGaps characters) with
    | none => none
    | some (_, afterKey) =>
      match skipGaps afterKey with
      | '=' :: written =>
        match readWritten allowance written with
        | some (_, ',' :: rest) => readWrittenPairs allowance rest
        | some (_, '\x7d' :: rest) => some rest
        | _ => none
      | _ => none

end

/-- The characters open with a bracket or a quote. -/
def opensEnclosed : List Char → Bool
  | [] => false
  | character :: _ =>
    character == '[' || character == '\x7b' || character == '\x22' || character == '\x27'

/-- The value that the text of an environment variable stands for. -/
def Scalar.ofText (written : String) : Scalar :=
  let characters := Text.trimCharacters written.toList
  if characters.contains ',' && !opensEnclosed characters then
    .other
  else
    match readWritten (2 * characters.length + 2) characters with
    | some (value, []) => value
    | _ => .text (String.ofList characters)

end Fleet.Config
