import Fleet.Service.BringUp

/-!
# Scripts on nodes of the service

A script is run on every node that satisfies a condition, and a single node is verified by a command
whose output has to contain a marker. The provider's login account serves nodes whose records carry
no credentials, unless the caller names another.
-/

namespace Fleet

/-- The results of a script run, by node. -/
structure ScriptReport where
  results : Table (Except ScriptFailure Response)

namespace ScriptReport

/-- The nodes on which the script completed, with its responses. -/
def responses (report : ScriptReport) : List (NodeId × Response) :=
  report.results.entries.filterMap fun (id, result) =>
    match result with
    | .ok response => some (id, response)
    | .error _ => none

/-- The nodes on which the script failed. -/
def failures (report : ScriptReport) : List (NodeId × ScriptFailure) :=
  report.results.entries.filterMap fun (id, result) =>
    match result with
    | .ok _ => none
    | .error failure => some (id, failure)

/-- The nodes that rejected the login. -/
def authFailures (report : ScriptReport) : List NodeId :=
  (report.failures.filter fun (_, failure) => failure.isAuthFailure).map Prod.fst

/-- Whether the script completed everywhere. -/
def isSuccess (report : ScriptReport) : Bool :=
  report.failures.isEmpty

end ScriptReport

namespace Service

variable {σ S : Type}

/-- Run a script on all nodes that satisfy a condition. -/
def runScriptMatching
    (service : Service σ S)
    (condition : Node → Bool)
    (script : String)
    (options : RunOptions) :
    Activity σ (Except ServiceError ScriptReport) := do
  match ← service.listMatching condition with
  | .error error => pure (.error error)
  | .ok nodes =>
    let options := withLoginAccount service.provider options
    let results ← service.executor.runScriptOnAll nodes script options
    pure (.ok { results := results })

/-- Repeat a command on a node until its output contains a marker. -/
def verify
    (service : Service σ S)
    (node : Node)
    (command marker : String)
    (options : RunOptions) :
    Activity σ (Except ScriptFailure Response) :=
  service.executor.verify node command marker (withLoginAccount service.provider options)
    service.settings.verification

end Service

end Fleet
