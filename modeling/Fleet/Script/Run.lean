import Fleet.Activity.Gathered
import Fleet.Retry.Attempts
import Fleet.Script.Command
import Fleet.Script.Failure
import Fleet.Script.Options

/-!
# Running scripts on nodes

A run on one node waits for the login port, logs in, does its work and releases the session whatever
happened. Runs on several nodes go on side by side and do not affect each other. Verification
repeats a command until its output contains a marker, each time in a session of its own.
-/

namespace Fleet

/-- What scripts are run with: sessions, a test for open ports, and fresh tokens. -/
structure Executor (σ S : Type) where
  transport : Transport σ S
  probe : Probe σ
  /-- A token that has not been given out before. -/
  freshToken : Activity σ String

namespace Executor

variable {σ S : Type}

/-- Wait until an endpoint accepts connections; the answer says whether it did in time. -/
def awaitSocket (probe : Probe σ) (policy : PollPolicy) (endpoint : Endpoint) : Activity σ Bool :=
  policy.waitUntil (probe endpoint)

/-- Make a session and log in; a session that fails to connect is released. -/
def logIn
    (transport : Transport σ S)
    (node : NodeId)
    (endpoint : Endpoint)
    (login : Credentials) :
    Activity σ (Except ScriptFailure S) := do
  match ← transport.connect (transport.create endpoint login) with
  | (.ok _, session) => pure (.ok session)
  | (.error error, session) =>
    discard (transport.disconnect session)
    pure (.error (.ofSession node .connecting error))

/-- A session on a node: its address, its open port and a complete login are needed, in that
order. -/
def openSession
    (executor : Executor σ S)
    (node : Node)
    (options : RunOptions) :
    Activity σ (Except ScriptFailure S) :=
  match node.primaryAddress with
  | none => pure (.error (.noAddress node.id))
  | some address => do
    let endpoint : Endpoint := { address := address, port := options.port }
    if ← awaitSocket executor.probe options.socketWait endpoint then
      match options.credentialsFor node with
      | none => pure (.error (.missingCredentials node.id))
      | some login => logIn executor.transport node.id endpoint login
    else
      pure (.error (.socketTimeout node.id endpoint))

/-- Run a command in a session. -/
def executeIn
    (transport : Transport σ S)
    (node : NodeId)
    (command : String)
    (session : S) :
    Activity σ (Except ScriptFailure Response × S) := do
  match ← transport.execute session command with
  | (.ok response, session) => pure (.ok response, session)
  | (.error error, session) => pure (.error (.ofSession node .executing error), session)

/-- Write a script to a fresh path and, when that succeeded, run it. -/
def uploadAndRun
    (executor : Executor σ S)
    (node : NodeId)
    (script : String)
    (session : S) :
    Activity σ (Except ScriptFailure Response × S) := do
  let path := ScriptCommand.path (← executor.freshToken)
  let delimiter := ScriptCommand.delimiter (← executor.freshToken)
  match ← executeIn executor.transport node
    (ScriptCommand.upload delimiter path script) session with
  | (.error failure, session) => pure (.error failure, session)
  | (.ok upload, session) =>
    if upload.exitStatus = some 0 then
      executeIn executor.transport node (ScriptCommand.run path) session
    else
      pure (.error (.uploadRejected node path upload.exitStatus upload.error), session)

/-- Open a session on a node, do some work in it, and release it. -/
def withSession
    (executor : Executor σ S)
    (node : Node)
    (options : RunOptions)
    (work : S → Activity σ (Except ScriptFailure Response × S)) :
    Activity σ (Except ScriptFailure Response) := do
  match ← executor.openSession node options with
  | .error failure => pure (.error failure)
  | .ok session =>
    let (result, session) ← work session
    discard (executor.transport.disconnect session)
    pure result

/-- Run a script on a node. -/
def runScript
    (executor : Executor σ S)
    (node : Node)
    (script : String)
    (options : RunOptions) :
    Activity σ (Except ScriptFailure Response) :=
  executor.withSession node options (executor.uploadAndRun node.id script)

/-- Run a command on a node as it is. -/
def runCommand
    (executor : Executor σ S)
    (node : Node)
    (command : String)
    (options : RunOptions) :
    Activity σ (Except ScriptFailure Response) :=
  executor.withSession node options (executeIn executor.transport node.id command)

/-- Run a script on several nodes side by side; the results are kept by node. -/
def runScriptOnAll
    (executor : Executor σ S)
    (nodes : List Node)
    (script : String)
    (options : RunOptions) :
    Activity σ (Table (Except ScriptFailure Response)) := do
  let results ← Activity.gathered (nodes.map fun node => do
    let result ← executor.runScript node script options
    pure (node.id, result))
  pure (Table.ofList results)

/-- One attempt of a verification. -/
def verifyOnce
    (executor : Executor σ S)
    (node : Node)
    (command marker : String)
    (options : RunOptions) :
    Activity σ (Except ScriptFailure Response) := do
  match ← executor.runCommand node command options with
  | .error failure => pure (.error failure)
  | .ok response =>
    if response.contains marker then
      pure (.ok response)
    else
      pure (.error (.markerMissing node.id command marker response))

/-- Repeat a command until its output contains a marker. -/
def verify
    (executor : Executor σ S)
    (node : Node)
    (command marker : String)
    (options : RunOptions)
    (policy : AttemptPolicy) :
    Activity σ (Except ScriptFailure Response) :=
  policy.run fun _ => executor.verifyOnce node command marker options

end Executor

end Fleet
