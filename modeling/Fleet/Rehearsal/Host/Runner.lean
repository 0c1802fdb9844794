import Fleet.Files.Tree
import Fleet.Rehearsal.Host.Shell
import Fleet.Session.Client
import Fleet.Text.Lossy

/-!
# Running programs of a local host

A program is named by its path or, without a slash, by the name under which it is found in the
directories of programs. A path that leads to anything else cannot be run. The output of a program
is decoded as text.
-/

namespace Fleet.Rehearsal.Host

/-- Why a program cannot be started. -/
inductive StartError where
  /-- The path leads nowhere. -/
  | path (error : Files.FileError)
  /-- What the path leads to is no program. -/
  | notPermitted
  /-- An argument is longer than a program can take. -/
  | tooMuch
  /-- The path or an argument holds the character with code zero. -/
  | holdsZero
  deriving DecidableEq, Repr

/-- The wording of the error. -/
def StartError.message : StartError → String
  | path error => error.message
  | notPermitted => "Permission denied (os error 13)"
  | tooMuch => "Argument list too long (os error 7)"
  | holdsZero => "nul byte found in provided data"

/-- The length, in bytes, from which on an argument is too long. -/
def argumentCeiling : Nat := 131072

/-- The shell as a program. -/
def shell : List String → Outcome
  | "-c" :: script :: _ => Shell.run script
  | _ => {}

/-- The program with a name. -/
def program (name : String) : Option (List String → Outcome) :=
  if name = "sh" then some shell else simpleProgram name

/-- The program that a path leads to. -/
def programAtPath (path : String) : Except StartError (List String → Outcome) :=
  match Files.Tree.resolve {} path with
  | .error error => .error (.path error)
  | .ok (.rooted names) =>
    (((Files.Host.programAt names).bind program).map Except.ok).getD (.error .notPermitted)
  | .ok _ => .error .notPermitted

/-- The program that is found under a name. -/
def programNamed (name : String) : Except StartError (List String → Outcome) :=
  if name = "." || name = ".." then .error .notPermitted
  else if Files.longestName < name.utf8ByteSize then .error (.path .tooLong)
  else ((program name).map Except.ok).getD (.error (.path .notFound))

/-- Run a program with arguments. -/
def start (path : String) (arguments : List String) : Except StartError Outcome :=
  if (path :: arguments).any Files.holdsZero then .error .holdsZero
  else do
    let run ← if path.toList.contains '/' then programAtPath path else programNamed path
    if arguments.any fun argument => argumentCeiling ≤ argument.utf8ByteSize then throw .tooMuch
    pure (run arguments)

/-- The output of a program, decoded. -/
def Outcome.toOutput (outcome : Outcome) : ProcessOutput :=
  { code := outcome.code, output := Text.decodeLossy outcome.output,
    error := Text.decodeLossy outcome.error }

/-- Run a program as clients are run. -/
def runProgram (path : String) (arguments : List String) : Except SessionError ProcessOutput :=
  match start path arguments with
  | .ok outcome => .ok outcome.toOutput
  | .error error => .error (.spawn path error.message)

/-- The runner of a local host. -/
def runner {σ : Type} : Runner σ := fun invocation =>
  pure (runProgram invocation.program invocation.arguments)

end Fleet.Rehearsal.Host
