import Fleet.Config.SettingsFile.Number
import Fleet.Config.SettingsFile.Outline

/-!
# Values in settings files

A value is a word, a text, a list between brackets or a table between braces. Texts stand between
double quotes, with escapes, or between single quotes, without; three quotes enclose a text of
several lines. Lists may go over several lines and hold comments; tables between braces may not.
Lists and tables nest up to a fixed depth.
-/

namespace Fleet.Config

/-- A blank within a line. -/
def isLineBlank (character : Char) : Bool :=
  character == ' ' || character == '\t'

/-- The characters after leading blanks. -/
def skipLineBlanks : List Char → List Char :=
  List.dropWhile isLineBlank

/-- The characters after blanks, line ends and comments. -/
def skipFiller (inComment : Bool) : List Char → Option (List Char)
  | [] => some []
  | '\n' :: rest => skipFiller false rest
  | '\r' :: '\n' :: rest => skipFiller false rest
  | character :: rest =>
    if inComment then
      if standsForItself character then skipFiller true rest else none
    else if character == '#' then skipFiller true rest
    else if isLineBlank character then skipFiller false rest
    else some (character :: rest)

/-- The characters from the next line on, when nothing but blanks and a comment is left of this
one. -/
def endLine (inComment : Bool) : List Char → Option (List Char)
  | [] => some []
  | '\n' :: rest => some rest
  | '\r' :: '\n' :: rest => some rest
  | character :: rest =>
    if inComment then
      if standsForItself character then endLine true rest else none
    else if character == '#' then endLine true rest
    else if isLineBlank character then endLine false rest
    else none

/-- The characters after one line end, if they start with one. -/
def withoutLineEnd : List Char → List Char
  | '\n' :: rest => rest
  | '\r' :: '\n' :: rest => rest
  | characters => characters

/-- The characters after blanks and line ends. -/
def skipLines : List Char → List Char
  | [] => []
  | '\n' :: rest => skipLines rest
  | '\r' :: '\n' :: rest => skipLines rest
  | character :: rest => if isLineBlank character then skipLines rest else character :: rest

/-- The characters after blanks and line ends, when a line end follows the first blanks. -/
def afterFold (characters : List Char) : Option (List Char) :=
  match skipLineBlanks characters with
  | '\n' :: rest | '\r' :: '\n' :: rest => some (skipLines rest)
  | _ => none

/-- The number of times a character stands at the start of the characters, up to five. -/
def quotesAhead (quote : Char) (characters : List Char) : Nat :=
  ((characters.take 5).takeWhile (· == quote)).length

/-- The rest of a text of several lines after its opening quotes; `read` holds the characters so
far, last first, and `escapes` says whether a backslash starts an escape. -/
def readLong
    (quote : Char)
    (escapes : Bool)
    (read : List Char) :
    Nat → List Char → Option (String × List Char)
  | 0, _ => none
  | allowance + 1, characters =>
    if 3 ≤ quotesAhead quote characters then
      let inner := quotesAhead quote characters - 3
      some (String.ofList (List.replicate inner quote ++ read).reverse,
        characters.drop (inner + 3))
    else
      match characters with
      | [] => none
      | '\n' :: rest => readLong quote escapes ('\n' :: read) allowance rest
      | '\r' :: '\n' :: rest => readLong quote escapes ('\n' :: read) allowance rest
      | character :: rest =>
        if escapes && character == '\\' then
          match afterFold rest with
          | some remaining => readLong quote escapes read allowance remaining
          | none =>
            match readEscape rest with
            | some (escaped, remaining) =>
              readLong quote escapes (escaped :: read) allowance remaining
            | none => none
        else if standsForItself character then
          readLong quote escapes (character :: read) allowance rest
        else none

/-- The text of several lines after its opening quotes, the first of which may end its line. -/
def longText
    (quote : Char)
    (escapes : Bool)
    (characters : List Char) :
    Option (String × List Char) :=
  readLong quote escapes [] (characters.length + 1) (withoutLineEnd characters)

/-- A key, and what follows. -/
def readKey : List Char → Option (String × List Char)
  | '\x22' :: rest => readQuoted rest
  | '\x27' :: rest => readPlainQuoted [] rest
  | characters => readPlainKey characters

/-- The depth up to which lists and tables nest, and the most keys that lead to one value. -/
def deepest : Nat := 79

/-- Keys with points between them, and what follows the blanks after them. -/
def readKeys : Nat → List Char → Option (List String × List Char)
  | 0, _ => none
  | allowance + 1, characters => do
    let (key, rest) ← readKey (skipLineBlanks characters)
    match skipLineBlanks rest with
    | '.' :: more => do
      let (keys, remaining) ← readKeys allowance more
      pure (key :: keys, remaining)
    | remaining => pure ([key], remaining)

mutual

/-- The value at the start of the characters, with so much depth left, and what follows. -/
def readValue : Nat → Nat → List Char → Option (Scalar × List Char)
  | 0, _, _ => none
  | allowance + 1, depth, characters =>
    match characters with
    | '\x22' :: '\x22' :: '\x22' :: rest =>
      (longText '\x22' true rest).map fun (value, more) => (.text value, more)
    | '\x27' :: '\x27' :: '\x27' :: rest =>
      (longText '\x27' false rest).map fun (value, more) => (.text value, more)
    | '\x22' :: rest => (readQuoted rest).map fun (value, more) => (.text value, more)
    | '\x27' :: rest => (readPlainQuoted [] rest).map fun (value, more) => (.text value, more)
    | '[' :: rest =>
      if depth = 0 then none
      else (readItems allowance (depth - 1) rest).map fun more => (.other, more)
    | '\x7b' :: rest =>
      if depth = 0 then none
      else
        match skipLineBlanks rest with
        | '\x7d' :: more => some (.other, more)
        | pairs => (readPairs allowance (depth - 1) [] pairs).map fun more => (.other, more)
    | _ =>
      let (word, rest) := wordAndRest characters
      (Scalar.ofFileWord word).map fun value => (value, rest)

/-- What follows the items of a list and its closing bracket. -/
def readItems : Nat → Nat → List Char → Option (List Char)
  | 0, _, _ => none
  | allowance + 1, depth, characters =>
    match skipFiller false characters with
    | none => none
    | some (']' :: rest) => some rest
    | some items =>
      match readValue allowance depth items with
      | none => none
      | some (_, after) =>
        match skipFiller false after with
        | some (',' :: rest) => readItems allowance depth rest
        | some (']' :: rest) => some rest
        | _ => none

/-- What follows the pairs of a table and its closing brace. -/
def readPairs : Nat → Nat → Outline → List Char → Option (List Char)
  | 0, _, _, _ => none
  | allowance + 1, depth, outline, characters =>
    match readKeys deepest characters with
    | some (keys, '=' :: written) =>
      match readValue allowance depth (skipLineBlanks written) with
      | none => none
      | some (value, after) =>
        match outline.assign [] keys value with
        | none => none
        | some outline =>
          match skipLineBlanks after with
          | ',' :: rest => readPairs allowance depth outline rest
          | '\x7d' :: rest => some rest
          | _ => none
    | _ => none

end

end Fleet.Config
