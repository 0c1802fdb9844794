import Fleet.Text.Decimal

/-!
# Programs of a local host

A host with a few of the programs that every host has, whose input is closed: they echo or format
their arguments, copy their empty input, succeed, or fail. What they write knows escapes behind
backslashes, and formats in which a percent sign and a letter stand for an argument. A format is
used again while arguments are left.
-/

namespace Fleet.Rehearsal.Host

/-! ## Formatted output -/

/-- The bytes of a text. -/
def bytesOf (text : String) : List UInt8 :=
  text.toUTF8.toList

/-- The bytes of characters. -/
def bytesOfCharacters (characters : List Char) : List UInt8 :=
  bytesOf (String.ofList characters)

/-- The value of a digit below eight. -/
def octalDigit (character : Char) : Option Nat :=
  if '0' ≤ character && character ≤ '7' then some (character.toNat - '0'.toNat) else none

/-- The number written by at most so many octal digits, and what follows. -/
def readOctal (value : Nat) : Nat → List Char → Nat × List Char
  | 0, characters => (value, characters)
  | _ + 1, [] => (value, [])
  | more + 1, character :: rest =>
    match octalDigit character with
    | some digit => readOctal (value * 8 + digit) more rest
    | none => (value, character :: rest)

/-- The byte of an escape of one letter. -/
def escapedByte : Char → Option UInt8
  | 'a' => some 7
  | 'b' => some 8
  | 't' => some 9
  | 'n' => some 10
  | 'v' => some 11
  | 'f' => some 12
  | 'r' => some 13
  | '\\' => some 92
  | '\x22' => some 34
  | _ => none

/-- The byte of the escape after a backslash, and what follows. -/
def readEscape : List Char → List UInt8 × List Char
  | [] => ([92], [])
  | character :: rest =>
    match escapedByte character with
    | some byte => ([byte], rest)
    | none =>
      if (octalDigit character).isSome then
        let (value, remaining) := readOctal 0 3 (character :: rest)
        ([UInt8.ofNat value], remaining)
      else
        (92 :: bytesOfCharacters [character], rest)

/-- The bytes that characters with escapes write; the allowance bounds the escapes read. -/
def unescape : Nat → List Char → List UInt8
  | 0, _ => []
  | _ + 1, [] => []
  | allowance + 1, '\\' :: rest =>
    (readEscape rest).1 ++ unescape allowance (readEscape rest).2
  | allowance + 1, character :: rest => bytesOfCharacters [character] ++ unescape allowance rest

/-- The bytes that a text with escapes writes. -/
def unescaped (text : String) : List UInt8 :=
  unescape (text.length + 1) text.toList

/-- One use of a format: the bytes written and the arguments left. -/
def applyFormat : Nat → List Char → List String → List UInt8 × List String
  | 0, _, arguments => ([], arguments)
  | _ + 1, [], arguments => ([], arguments)
  | allowance + 1, '%' :: '%' :: rest, arguments =>
    let (written, left) := applyFormat allowance rest arguments
    (37 :: written, left)
  | allowance + 1, '%' :: letter :: rest, arguments =>
    let argument := arguments.head?.getD ""
    let shown := match letter with
      | 'b' => unescaped argument
      | 'd' | 'i' => bytesOf (if argument.isEmpty then "0" else argument)
      | _ => bytesOf argument
    let (written, left) := applyFormat allowance rest arguments.tail
    (shown ++ written, left)
  | allowance + 1, '\\' :: rest, arguments =>
    let (written, left) := applyFormat allowance (readEscape rest).2 arguments
    ((readEscape rest).1 ++ written, left)
  | allowance + 1, character :: rest, arguments =>
    let (written, left) := applyFormat allowance rest arguments
    (bytesOfCharacters [character] ++ written, left)

/-- A format with arguments, used again as long as it uses arguments up. -/
def format (pattern : String) : Nat → List String → List UInt8
  | 0, _ => []
  | allowance + 1, arguments =>
    let (written, left) := applyFormat (pattern.length + 1) pattern.toList arguments
    if left.isEmpty || arguments.length ≤ left.length then written
    else written ++ format pattern allowance left

/-- What the formatting program writes for a format and its arguments. -/
def formatted (pattern : String) (arguments : List String) : List UInt8 :=
  format pattern (arguments.length + 1) arguments

/-! ## Programs -/

/-- What a program left behind. -/
structure Outcome where
  /-- The exit code, unless a signal ended the program. -/
  code : Option Int := some 0
  output : List UInt8 := []
  error : List UInt8 := []
  deriving DecidableEq, Repr

/-- Arguments between spaces, up to the end of a line unless that is left out. -/
def echoed (arguments : List String) (endsLine : Bool) : String :=
  " ".intercalate arguments ++ if endsLine then "\n" else ""

/-- The program that echoes its arguments. -/
def echo : List String → Outcome
  | "-n" :: arguments => { output := bytesOf (echoed arguments false) }
  | "-e" :: arguments => { output := unescaped (echoed arguments true) }
  | arguments => { output := bytesOf (echoed arguments true) }

/-- The program that formats its arguments. -/
def print : List String → Outcome
  | [] =>
    { code := some 1
      error := bytesOf "printf: missing operand\nTry 'printf --help' for more information.\n" }
  | pattern :: arguments => { output := formatted pattern arguments }

/-- What copying one file comes to: nothing for the closed input, and an error for any other. -/
def copyOne (argument : String) : Outcome :=
  match argument.toList with
  | ['-'] => {}
  | '-' :: letter :: _ =>
    if "AbeEnstTuv-".toList.contains letter then {}
    else
      { code := some 1
        error := bytesOf
          s!"cat: invalid option -- '{letter}'\nTry 'cat --help' for more information.\n" }
  | _ => { code := some 1, error := bytesOf s!"cat: {argument}: No such file or directory\n" }

/-- The program that copies files. -/
def copy (arguments : List String) : Outcome :=
  match arguments.find? fun argument =>
    argument.startsWith "-" && (copyOne argument).code != some 0 with
  | some argument => copyOne argument
  | none =>
    let outcomes := arguments.map copyOne
    { code := if outcomes.all fun outcome => outcome.code == some 0 then some 0 else some 1
      error := outcomes.flatMap Outcome.error }

/-- A program by its name. -/
def simpleProgram : String → Option (List String → Outcome)
  | "true" => some fun _ => {}
  | "false" => some fun _ => { code := some 1 }
  | "echo" => some echo
  | "printf" => some print
  | "cat" => some copy
  | _ => none

end Fleet.Rehearsal.Host
