import Fleet.Config.Quoted
import Fleet.Text.Decimal
import Fleet.Text.Search

/-!
# Words of settings files

A value without quotes is one word: a truth value, a whole number, a number with a fraction or a
power of ten, or a date with or without a time. Underscores may stand between the digits of a
number. A whole number is decimal without leading zeros and with an optional sign, or hexadecimal,
octal or binary behind a mark, and fits a signed word of 64 bits.
-/

namespace Fleet.Config

/-- The number of digits of a base with single underscores between them. -/
def readGrouped (base : Nat) (characters : List Char) : Option Nat :=
  let groups := Text.piecesAt (· == '_') characters
  if groups.any List.isEmpty then none else Text.numberIn base 0 groups.flatten

/-- The number of decimal digits without a leading zero. -/
def readDecimal (characters : List Char) : Option Nat :=
  if characters.head? == some '0' && characters != ['0'] then none
  else readGrouped 10 characters

/-- The whole number of the characters. -/
def readWhole : List Char → Option Int
  | '0' :: 'x' :: digits => limited (readGrouped 16 digits) Text.largestSigned64
  | '0' :: 'o' :: digits => limited (readGrouped 8 digits) Text.largestSigned64
  | '0' :: 'b' :: digits => limited (readGrouped 2 digits) Text.largestSigned64
  | '+' :: digits => limited (readDecimal digits) Text.largestSigned64
  | '-' :: digits => (limited (readDecimal digits) (Text.largestSigned64 + 1)).map Int.neg
  | digits => limited (readDecimal digits) Text.largestSigned64
where
  /-- A number up to a bound. -/
  limited (number : Option Nat) (bound : Nat) : Option Int :=
    (number.filter (· ≤ bound)).map Int.ofNat

/-- A digit, or an underscore between digits. -/
def isGroupedDigit (character : Char) : Bool :=
  character.isDigit || character == '_'

/-- A power of ten. -/
def isScale : List Char → Bool
  | [] => false
  | mark :: rest => (mark == 'e' || mark == 'E') && (readGrouped 10 (Text.withoutSign rest)).isSome

/-- A number that is not whole: with a fraction, with a power of ten, infinite, or none at all. -/
def isFraction (characters : List Char) : Bool :=
  match Text.withoutSign characters with
  | ['i', 'n', 'f'] | ['n', 'a', 'n'] => true
  | digits =>
    let (whole, rest) := digits.span isGroupedDigit
    (readDecimal whole).isSome &&
      match rest with
      | '.' :: more =>
        let (fraction, scale) := more.span isGroupedDigit
        (readGrouped 10 fraction).isSome && (scale.isEmpty || isScale scale)
      | scale => isScale scale

/-- The number of exactly so many decimal digits, and what follows. -/
def readFixed (count : Nat) (characters : List Char) : Option (Nat × List Char) :=
  let digits := characters.take count
  if digits.length = count then
    (Text.readDigits digits).map fun value => (value, characters.drop count)
  else
    none

/-- What follows a character that must come first. -/
def expect (expected : Char) : List Char → Option (List Char)
  | [] => none
  | character :: rest => if character = expected then some rest else none

/-- The days of a month. -/
def daysOf (year month : Nat) : Nat :=
  if month = 2 then
    if year % 4 = 0 && (year % 100 != 0 || year % 400 = 0) then 29 else 28
  else if [4, 6, 9, 11].contains month then 30
  else 31

/-- What follows a date. -/
def afterDate (characters : List Char) : Option (List Char) := do
  let (year, rest) ← readFixed 4 characters
  let (month, rest) ← readFixed 2 (← expect '-' rest)
  let (day, rest) ← readFixed 2 (← expect '-' rest)
  if 1 ≤ month && month ≤ 12 && 1 ≤ day && day ≤ daysOf year month then some rest else none

/-- What follows hours and minutes. -/
def afterMinutes (characters : List Char) : Option (List Char) := do
  let (hour, rest) ← readFixed 2 characters
  let (minute, rest) ← readFixed 2 (← expect ':' rest)
  if hour ≤ 23 && minute ≤ 59 then some rest else none

/-- What follows a time of day. -/
def afterTime (characters : List Char) : Option (List Char) := do
  let (second, rest) ← readFixed 2 (← expect ':' (← afterMinutes characters))
  if second ≤ 60 then
    match rest with
    | '.' :: fraction =>
      if (fraction.head?.any Char.isDigit) then some (fraction.dropWhile Char.isDigit) else none
    | _ => some rest
  else
    none

/-- The distance of a time zone. -/
def isOffset : List Char → Bool
  | ['Z'] | ['z'] => true
  | '+' :: rest | '-' :: rest => afterMinutes rest == some []
  | _ => false

/-- A date, a time of day, or both, then perhaps with a time zone. -/
def isMoment (characters : List Char) : Bool :=
  match afterDate characters with
  | some [] => true
  | some (separator :: rest) =>
    (separator == 'T' || separator == 't' || separator == ' ') &&
      match afterTime rest with
      | some remaining => remaining.isEmpty || isOffset remaining
      | none => false
  | none => afterTime characters == some []

/-- A character of a word. -/
def isWordCharacter (character : Char) : Bool :=
  character.isAlphanum || character == '+' || character == '-' || character == '_' ||
    character == '.' || character == ':'

/-- The word at the start of the characters, and what follows; a blank stands inside a word only
between a date and a time. -/
def wordAndRest (characters : List Char) : List Char × List Char :=
  let (word, rest) := characters.span isWordCharacter
  match rest with
  | ' ' :: digit :: more =>
    if afterDate word == some [] && digit.isDigit then
      let (time, remaining) := (digit :: more).span isWordCharacter
      (word ++ ' ' :: time, remaining)
    else
      (word, rest)
  | _ => (word, rest)

/-- What a word stands for. -/
def Scalar.ofFileWord (word : List Char) : Option Scalar :=
  match word with
  | ['t', 'r', 'u', 'e'] => some (.truth true)
  | ['f', 'a', 'l', 's', 'e'] => some (.truth false)
  | _ =>
    match readWhole word with
    | some value => some (.whole value)
    | none => if isFraction word || isMoment word then some .other else none

end Fleet.Config
