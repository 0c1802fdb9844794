import Fleet.Service.Settle

/-!
# Bringing a batch of nodes up

Nodes are created side by side and then brought up side by side: a node has to settle as running,
open the port that its template waits for, and complete its template's script. A node that fails a
step is reported and left in place; what happens to it does not touch the others. Only rejected
credentials at creation, and a blank tag, fail the whole operation.
-/

namespace Fleet

/-- What became of a batch. -/
structure BatchReport where
  /-- The nodes that came up, by name. -/
  nodes : List Node
  /-- What went wrong, an entry for each node concerned. -/
  failures : List NodeFailure
  deriving DecidableEq

/-- Whether every node came up. -/
def BatchReport.isComplete (report : BatchReport) : Bool :=
  report.failures.isEmpty

namespace Service

variable {σ S : Type}

/-- The created nodes and the failed creations; rejected credentials are an error. -/
def sortCreations : List (Except ProviderFailure Node) →
    Except ServiceError (List Node × List NodeFailure)
  | [] => .ok ([], [])
  | .ok node :: rest => do
    let (nodes, failures) ← sortCreations rest
    pure (node :: nodes, failures)
  | .error failure :: rest =>
    if failure.isAuthorization then
      .error (.ofFailure .createNode failure)
    else do
      let (nodes, failures) ← sortCreations rest
      pure (nodes, .create failure :: failures)

/-- The running node, or why the wait for it did not end with one. -/
def runningNode (settings : ServiceSettings) : Settling → Except NodeFailure Node
  | .running node => .ok node
  | .stopped id state => .error (.settled id state)
  | .timedOut id state => .error (.timeout id state settings.runningTimeout)
  | .failed id failure => .error (.poll id failure)
  | .invalid id error => .error (.invalid id error)

/-- Options with the provider's login account for nodes without credentials, unless there is an
account for them already. -/
def withLoginAccount (provider : Provider σ) (options : RunOptions) : RunOptions :=
  { options with fallbackAccount := options.fallbackAccount.or provider.loginAccount }

/-- How a template's script reaches a node and logs in. -/
def scriptOptions (service : Service σ S) (options : TemplateOptions) : RunOptions :=
  withLoginAccount service.provider
    { override := options.override, privateKey := options.privateKey,
      socketWait := service.settings.socketWait }

/-- Wait for a port of a node; a node without address never opens one. -/
def awaitPort (service : Service σ S) (node : Node) (wait : PortWait) : Activity σ Bool :=
  match node.primaryAddress with
  | none => pure false
  | some address =>
    Executor.awaitSocket service.executor.probe
      { budget := wait.timeout, period := Duration.second }
      { address := address, port := wait.port }

/-- Wait for the port that the options ask for, if they ask for one. -/
def requirePort
    (service : Service σ S)
    (options : TemplateOptions)
    (node : Node) :
    Activity σ (Except NodeFailure Node) :=
  match options.portWait with
  | none => pure (.ok node)
  | some wait => do
    if ← service.awaitPort node wait then
      pure (.ok node)
    else
      pure (.error (.portClosed node.id wait.port))

/-- Run the script that the options ask for, if they ask for one. -/
def requireScript
    (service : Service σ S)
    (options : TemplateOptions)
    (node : Node) :
    Activity σ (Except NodeFailure Node) :=
  match options.script with
  | none => pure (.ok node)
  | some script => do
    match ← service.executor.runScript node script (service.scriptOptions options) with
    | .ok _ => pure (.ok node)
    | .error failure => pure (.error (.script failure))

/-- Bring a created node up. -/
def bringUp
    (service : Service σ S)
    (options : TemplateOptions)
    (created : Node) :
    Activity σ (Except NodeFailure Node) := do
  match runningNode service.settings (← service.awaitSettled created.id created.state) with
  | .error failure => pure (.error failure)
  | .ok node =>
    match ← service.requirePort options node with
    | .error failure => pure (.error failure)
    | .ok node => service.requireScript options node

/-- The nodes that came up and what happened to the others, in order. -/
def sortResults : List (Except NodeFailure Node) → List Node × List NodeFailure
  | [] => ([], [])
  | .ok node :: rest => ((node :: (sortResults rest).1), (sortResults rest).2)
  | .error failure :: rest => ((sortResults rest).1, failure :: (sortResults rest).2)

/-- Create a number of nodes with a tag from a template and bring them up. -/
def runNodes
    (service : Service σ S)
    (tag : String)
    (count : Nat)
    (template : Template) :
    Activity σ (Except ServiceError BatchReport) :=
  if Text.isBlankText tag then
    pure (.error (.invalidRequest "tag must not be blank"))
  else do
    match sortCreations (← service.provider.createMany tag count template) with
    | .error error => pure (.error error)
    | .ok (created, refused) =>
      let (nodes, failures) := sortResults
        (← Activity.gathered (created.map (service.bringUp template.options)))
      pure (.ok { nodes := Node.sortById nodes, failures := refused ++ failures })

end Service

end Fleet
