import Fleet.Document.Script
import Fleet.Document.Template
import Fleet.Service.Batch
import Fleet.Service.Inspect
import Fleet.Service.Scripts

/-!
# Documents of the service

Failures of provider calls, errors and reports of the service, and its settings. The wording of a
failure that quotes another program, such as a network library, ends before the quotation.
-/

namespace Fleet

/-- The kind with a name. -/
def FailureKind.ofName : String → FailureKind
  | "Authorization" => authorization
  | "NotFound" => notFound
  | "Unsupported" => unsupported
  | "Transient" => transient
  | _ => fatal

/-- The openings of messages that quote another program after a colon. -/
def ProviderFailure.quotingLeads : List String :=
  ["transport error", "cannot decode server", "cannot decode server list",
    "cannot decode server products"]

/-- A message without what it quotes. -/
def ProviderFailure.withoutQuotation (message : String) : String :=
  (quotingLeads.find? fun lead => (Text.textAfter (lead ++ ": ") message).isSome).getD message

/-- The document of a failed provider call. -/
def ProviderFailure.toJson (failure : ProviderFailure) : Json :=
  .object [("kind", .text failure.kind.name), ("message", .text (withoutQuotation failure.message)),
    ("source", Json.ofText? failure.cause)]

/-- The document of the result of a provider call. -/
def ProviderFailure.resultToJson {α : Type} (ofValue : α → Json) :
    Except ProviderFailure α → Json :=
  Json.result ProviderFailure.toJson ofValue

/-- The name of the kind of error, and the document of the error behind it. -/
def ServiceError.parts : ServiceError → String × Json
  | authorization _ source => ("Authorization", source.toJson)
  | provider _ source => ("Backend", source.toJson)
  | noMatch source => ("NoMatch", source.toJson)
  | location source => ("Location", source.toJson)
  | invalidRequest _ => ("InvalidRequest", .null)
  | inconsistent _ _ _ _ => ("Inconsistent", .null)

/-- The document of the error; criteria that cannot be resolved speak for themselves. -/
def ServiceError.toJson (error : ServiceError) : Json :=
  match error with
  | noMatch source => source.toJson
  | _ =>
    Json.failure error.parts.1 error.message
      [("authorization", .bool error.isAuthorization), ("source", error.parts.2)]

/-- The document of the result of a service operation. -/
def ServiceError.resultToJson {α : Type} (ofValue : α → Json) :
    Except ServiceError α → Json :=
  Json.result ServiceError.toJson ofValue

/-- The name of the kind of failure, and the document of the error behind it. -/
def NodeFailure.parts : NodeFailure → String × Json
  | create source => ("Create", source.toJson)
  | settled _ _ => ("Settled", .null)
  | timeout _ _ _ => ("Timeout", .null)
  | poll _ source => ("Poll", source.toJson)
  | invalid _ source => ("Invalid", source.toJson)
  | portClosed _ _ => ("PortClosed", .null)
  | script source => ("Script", source.toJson)

/-- The document of the failure. -/
def NodeFailure.toJson (failure : NodeFailure) : Json :=
  Json.failure failure.parts.1 failure.message
    [("node", Json.ofText? failure.node), ("source", failure.parts.2)]

/-- The document of a report on a batch; a brief one lists names only. -/
def BatchReport.toJson (brief : Bool) (report : BatchReport) : Json :=
  .object
    [("nodes", if brief then Json.texts (report.nodes.map Node.id)
        else Node.listToJson report.nodes),
      ("failures", .list (report.failures.map NodeFailure.toJson)),
      ("complete", .bool report.isComplete)]

/-- The document of failures by node. -/
def ProviderFailure.pairsToJson (failures : List (NodeId × ProviderFailure)) : Json :=
  .list (failures.map fun (id, failure) => .list [.text id, failure.toJson])

/-- The document of what became of a batch. -/
def BatchOutcome.toJson (outcome : BatchOutcome) : Json :=
  .object
    [("succeeded", Json.texts outcome.succeeded),
      ("swallowed", ProviderFailure.pairsToJson outcome.swallowed),
      ("failed", ProviderFailure.pairsToJson outcome.failed),
      ("unsettled", Json.texts outcome.unsettled), ("clean", .bool outcome.isClean)]

/-- The document of the results of a batch call. -/
def BatchResults.toJson (results : BatchResults) : Json :=
  .list (results.map fun (id, result) =>
    .list [.text id, ProviderFailure.resultToJson Json.done result])

/-- The document of a report on a script run. -/
def ScriptReport.toJson (report : ScriptReport) : Json :=
  .object
    [("results", ScriptFailure.resultsToJson report.results),
      ("responses", Json.texts (report.responses.map Prod.fst)),
      ("failures", .list (report.failures.map fun (id, failure) =>
        .list [.text id, .text failure.stage.name])),
      ("auth_failures", Json.texts report.authFailures), ("success", .bool report.isSuccess)]

/-- The settings of a service from a document. -/
def ServiceSettings.ofJson (json : Json) : ServiceSettings :=
  let usual : ServiceSettings := {}
  { runningTimeout := json.durationAt "node_running_timeout" usual.runningTimeout
    pollPeriod := json.durationAt "node_poll_period" usual.pollPeriod
    catalogLifetime := json.durationAt "catalog_ttl" usual.catalogLifetime
    socketWait := json.pollPolicyAt "socket_wait" usual.socketWait
    verification := json.attemptPolicyAt "verify" usual.verification }

/-- The document of the settings of a service. -/
def ServiceSettings.toJson (settings : ServiceSettings) : Json :=
  .object
    [("node_running_timeout", Duration.toJson settings.runningTimeout),
      ("node_poll_period", Duration.toJson settings.pollPeriod),
      ("catalog_ttl", Duration.toJson settings.catalogLifetime),
      ("socket_max", Duration.toJson settings.socketWait.budget),
      ("verify_attempts", Json.ofNat settings.verification.attempts)]

/-- The condition on nodes that a document describes. -/
def Node.conditionOfJson (json : Json) : Node → Bool :=
  let value := json.textAt "value" ""
  match json.textAt "kind" "all" with
  | "running_in_tag" => Node.isRunningIn value
  | "not_terminated" => Node.isLive
  | "tag" => fun node => node.tag == value
  | "state" => fun node => node.state.name == value
  | "id" => fun node => node.id == value
  | _ => fun _ => true

end Fleet
