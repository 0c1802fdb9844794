import Fleet.Session.Basic
import Fleet.Text.Blank

/-!
# Sessions through a local client

A session that runs a local `ssh` client once for every command. While the session is connected, the
key lies in a file that the client is pointed to. The client reserves one exit code for its own
failures; the words on its standard error then tell a rejected login from a failed connection. Every
other code belongs to the remote command.
-/

namespace Fleet

/-- How the client is called. -/
structure ClientSettings where
  /-- The client program. -/
  program : String := "ssh"
  /-- The client never asks questions. -/
  batchMode : Bool := true
  /-- The client refuses hosts that it does not know. -/
  strictHostKeys : Bool := false
  /-- The file of known hosts, unless blank. -/
  knownHostsFile : String := "/dev/null"
  /-- The seconds that connecting may take. -/
  connectTimeout : Nat := 10
  deriving DecidableEq, Repr

/-- What a local process left behind. -/
structure ProcessOutput where
  /-- The exit code, unless a signal ended the process. -/
  code : Option Int := some 0
  output : String := ""
  error : String := ""
  deriving DecidableEq, Repr

/-- The process ended with code zero. -/
def ProcessOutput.isSuccess (result : ProcessOutput) : Bool :=
  result.code == some 0

/-- The output of the process as a response. -/
def ProcessOutput.toResponse (result : ProcessOutput) : Response :=
  { output := result.output, error := result.error, exitStatus := result.code }

/-- One call of the client: the program, its arguments, and the contents of the key file. -/
structure Invocation where
  program : String
  arguments : List String
  key : String
  deriving DecidableEq, Repr

/-- A way to run local programs. -/
abbrev Runner (σ : Type) := Invocation → Activity σ (Except SessionError ProcessOutput)

/-- A session through the client; it is connected while it holds the contents of a key file. -/
structure ClientSession where
  endpoint : Endpoint
  credentials : Credentials
  stagedKey : Option String := none
  deriving DecidableEq, Repr

namespace ClientSession

/-- The exit code that the client reserves for its own failures. -/
def failureCode : Int := 255

/-- The contents of the key file: the key, ending with a line end. -/
def keyFileText (key : String) : String :=
  if key.toList.getLast? = some '\n' then key else key ++ "\n"

/-- A setting as the client takes it. -/
def setting (text : String) : List String := ["-o", text]

/-- The arguments with which the client runs a command. -/
def arguments
    (settings : ClientSettings)
    (keyPath : String)
    (session : ClientSession)
    (command : String) :
    List String :=
  ["-p", toString session.endpoint.port, "-i", keyPath] ++
    setting "IdentitiesOnly=yes" ++
    setting s!"ConnectTimeout={settings.connectTimeout}" ++
    (if settings.batchMode then setting "BatchMode=yes" else []) ++
    (if settings.strictHostKeys then [] else setting "StrictHostKeyChecking=no") ++
    (if Text.isBlankText settings.knownHostsFile then []
      else setting s!"UserKnownHostsFile={settings.knownHostsFile}") ++
    [s!"{session.credentials.account}@{session.endpoint.address.toText}", command]

/-- What the output of the client says: a response, a rejected login or a failed connection. -/
def classify (session : ClientSession) (result : ProcessOutput) : Except SessionError Response :=
  if result.code = some failureCode then
    let message := Text.trim result.error
    let host := session.endpoint.toText
    if SessionError.reportsRejection message then
      .error (.auth session.credentials.account host message)
    else
      .error (.connect host message)
  else
    .ok result.toResponse

/-- Run the client for a command; a session without a staged key is not connected. -/
def call
    {σ : Type}
    (settings : ClientSettings)
    (keyPath : String)
    (runner : Runner σ)
    (session : ClientSession)
    (command : String) :
    Activity σ (Except SessionError Response) :=
  match session.stagedKey with
  | none => pure (.error (.notConnected session.endpoint.toText))
  | some key => do
    match ← runner { program := settings.program,
                     arguments := arguments settings keyPath session command, key := key } with
    | .ok result => pure (session.classify result)
    | .error error => pure (.error error)

/-- The session without its key. -/
def released (session : ClientSession) : ClientSession :=
  { session with stagedKey := none }

/-- Stage the key unless it is staged already, and see whether the login works. -/
def connect
    {σ : Type}
    (settings : ClientSettings)
    (keyPath : String)
    (runner : Runner σ)
    (session : ClientSession) :
    Activity σ (Except SessionError Unit × ClientSession) := do
  let staged :=
    { session with
      stagedKey := some (session.stagedKey.getD (keyFileText session.credentials.key)) }
  match ← call settings keyPath runner staged "true" with
  | .ok _ => pure (.ok (), staged)
  | .error error => pure (.error error, staged.released)

/-- The transport of sessions through the client. -/
def transport
    {σ : Type}
    (settings : ClientSettings)
    (keyPath : String)
    (runner : Runner σ) :
    Transport σ ClientSession where
  create endpoint credentials := { endpoint := endpoint, credentials := credentials }
  connect := connect settings keyPath runner
  execute session command := do
    let result ← call settings keyPath runner session command
    pure (result, session)
  disconnect session := pure session.released

end ClientSession

end Fleet
