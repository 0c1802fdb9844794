import Fleet.Rehearsal.Host.Program

/-!
# A small shell

Simple commands between semicolons, line ends, and the two conditional connectives, with quotes and
with output sent to the error output. Every command is a program of the host or one of the shell's
own: leaving with a status, and sending a signal to the shell itself.
-/

namespace Fleet.Rehearsal.Host

/-- A piece of a word. -/
inductive Piece where
  | letter (character : Char)
  /-- The status of the last command. -/
  | status
  /-- The number of the shell's own process. -/
  | process
  deriving DecidableEq, Repr

/-- How a command goes with the one before it. -/
inductive Connective where
  | always
  | onSuccess
  | onFailure
  deriving DecidableEq, Repr

/-- A token of a script. -/
inductive Token where
  | word (pieces : List Piece)
  | connective (kind : Connective)
  /-- Output goes to the error output. -/
  | toError
  deriving DecidableEq, Repr

/-- What surrounds the characters being read. -/
inductive Quoting where
  | plain
  | single
  | double
  deriving DecidableEq, Repr

/-- The word read so far as a token, if there is one. -/
def wordToken : Option (List Piece) → List Token
  | some pieces => [.word pieces]
  | none => []

/-- The word read so far with one more piece. -/
def extend (word : Option (List Piece)) (piece : Piece) : Option (List Piece) :=
  some (word.getD [] ++ [piece])

/-- The tokens of a script, given what surrounds its start and the word read so far. -/
def tokens : Quoting → Option (List Piece) → List Char → List Token
  | _, word, [] => wordToken word
  | .single, word, '\x27' :: rest => tokens .plain (some (word.getD [])) rest
  | .single, word, character :: rest => tokens .single (extend word (.letter character)) rest
  | .double, word, '\x22' :: rest => tokens .plain (some (word.getD [])) rest
  | .plain, word, '\x27' :: rest => tokens .single (some (word.getD [])) rest
  | .plain, word, '\x22' :: rest => tokens .double (some (word.getD [])) rest
  | quoting, word, '$' :: '$' :: rest => tokens quoting (extend word .process) rest
  | quoting, word, '$' :: '?' :: rest => tokens quoting (extend word .status) rest
  | .double, word, '\\' :: '\\' :: rest => tokens .double (extend word (.letter '\\')) rest
  | .double, word, '\\' :: '\x22' :: rest => tokens .double (extend word (.letter '\x22')) rest
  | .double, word, character :: rest => tokens .double (extend word (.letter character)) rest
  | .plain, word, '\\' :: character :: rest => tokens .plain (extend word (.letter character)) rest
  | .plain, word, '&' :: '&' :: rest =>
    wordToken word ++ .connective .onSuccess :: tokens .plain none rest
  | .plain, word, '|' :: '|' :: rest =>
    wordToken word ++ .connective .onFailure :: tokens .plain none rest
  | .plain, some [.letter '1'], '>' :: '&' :: '2' :: rest => .toError :: tokens .plain none rest
  | .plain, word, '>' :: '&' :: '2' :: rest => wordToken word ++ .toError :: tokens .plain none rest
  | .plain, word, character :: rest =>
    if character = ';' || character = '\n' then
      wordToken word ++ .connective .always :: tokens .plain none rest
    else if character = ' ' || character = '\t' then
      wordToken word ++ tokens .plain none rest
    else
      tokens .plain (extend word (.letter character)) rest

/-- A simple command. -/
structure Command where
  connective : Connective := .always
  words : List (List Piece) := []
  toError : Bool := false
  deriving DecidableEq, Repr

/-- The commands of tokens, after the start of one. -/
def commands (command : Command) : List Token → List Command
  | [] => [command]
  | .word pieces :: rest => commands { command with words := command.words ++ [pieces] } rest
  | .toError :: rest => commands { command with toError := true } rest
  | .connective kind :: rest => command :: commands { connective := kind } rest

/-- The state of a shell: what it has left behind so far, and whether it has ended. -/
structure Shell where
  status : Int := 0
  outcome : Outcome := {}
  ended : Bool := false

namespace Shell

/-- The number of the shell's own process. -/
def processNumber : String := "4096"

/-- The text of a word. -/
def expand (shell : Shell) (pieces : List Piece) : String :=
  String.join (pieces.map fun
    | .letter character => character.toString
    | .status => toString shell.status
    | .process => processNumber)

/-- The shell after a program has run. -/
def finish (shell : Shell) (toError : Bool) (outcome : Outcome) : Shell :=
  { shell with
    status := outcome.code.getD 137
    outcome :=
      { shell.outcome with
        output := shell.outcome.output ++ if toError then [] else outcome.output
        error := shell.outcome.error ++ (if toError then outcome.output else []) ++
          outcome.error } }

/-- The shell that leaves with a status. -/
def leave (shell : Shell) (status : Int) : Shell :=
  { shell with status := status % 256, ended := true }

/-- What the shell's own echo writes: escapes count, and a number after a zero is octal. -/
def echo : List String → Outcome
  | "-n" :: arguments => { output := unescaped (echoed arguments false) }
  | arguments => { output := unescaped (echoed arguments true) }

/-- Run a command by its words. -/
def runWords (shell : Shell) (toError : Bool) : List String → Shell
  | [] => shell
  | ["exit"] => shell.leave shell.status
  | "exit" :: status :: _ =>
    match Text.readDigits status.toList with
    | some value => shell.leave value
    | none => shell.leave 2
  | "kill" :: arguments =>
    if arguments.getLast? = some processNumber then
      { shell with outcome := { shell.outcome with code := none }, ended := true }
    else
      shell.finish toError { code := some 1 }
  | ":" :: _ => shell.finish toError {}
  | "echo" :: arguments => shell.finish toError (echo arguments)
  | name :: arguments =>
    match simpleProgram name with
    | some program => shell.finish toError (program arguments)
    | none =>
      shell.finish toError { code := some 127, error := bytesOf s!"sh: 1: {name}: not found\n" }

/-- Run a command, if it is its turn. -/
def step (shell : Shell) (command : Command) : Shell :=
  let isTurn := match command.connective with
    | .always => true
    | .onSuccess => shell.status == 0
    | .onFailure => shell.status != 0
  if shell.ended || !isTurn then shell
  else shell.runWords command.toError (command.words.map shell.expand)

/-- Run a script. -/
def run (script : String) : Outcome :=
  let shell := (commands {} (tokens .plain none script.toList)).foldl step {}
  match shell.outcome.code with
  | none => shell.outcome
  | some _ => { shell.outcome with code := some shell.status }

end Shell

end Fleet.Rehearsal.Host
