import Fleet.Proofs.Service.Recorded
import Fleet.Proofs.Service.Rejection

/-!
# What a batch takes for a script that went well

The script of a template is written to each node that is brought up, and then run. A node whose
script cannot be written or started is a failure of the batch. A node whose script was run is among
the nodes that came up, whatever the exit status of the run: the status of the writing is looked at,
that of the script is not.
-/

namespace Fleet

variable {σ S : Type}

/-- A script was written to a node, and its run was answered. -/
inductive Executor.Delivers (executor : Executor σ S) (script : String) (path : List (Moment σ))
    (response : Response) : Prop where
  | intro {token delimiter : String} {fresh written left : S} {upload : Response}
      (uploaded : (executor.transport.execute fresh (ScriptCommand.upload
        (ScriptCommand.delimiter delimiter) (ScriptCommand.path token) script)).Occurs path
          (.ok upload, written))
      (accepted : upload.exitStatus = some 0)
      (answered : (executor.transport.execute written
        (ScriptCommand.run (ScriptCommand.path token))).Occurs path (.ok response, left))

namespace Executor

theorem Delivers.mono
    {executor : Executor σ S}
    {script : String}
    {few many : List (Moment σ)}
    {response : Response}
    (delivers : executor.Delivers script few response)
    (contained : few <:+: many) :
    executor.Delivers script many response := by
  cases delivers with
  | intro uploaded accepted answered =>
    exact .intro (uploaded.mono contained) accepted (answered.mono contained)

/-- A command that was answered in a session was executed. -/
theorem occurs_of_executeIn
    {transport : Transport σ S}
    {node : NodeId}
    {command : String}
    {session left : S}
    {path : List (Moment σ)}
    {response : Response}
    (followed : (executeIn transport node command session).along path =
      some (.ok response, left)) :
    (transport.execute session command).Occurs path (.ok response, left) := by
  rcases (Activity.along_bind_iff _ _ _ _).1 followed with
    ⟨early, late, ⟨answer, after⟩, rfl, executed, ended⟩
  cases answer with
  | error error =>
    rcases (Activity.along_done_iff _ _ _).1 ended with ⟨-, same⟩
    cases same
  | ok other =>
    rcases (Activity.along_done_iff _ _ _).1 ended with ⟨-, same⟩
    cases same
    exact (Activity.Occurs.of_along executed).mono (List.prefix_append early late).isInfix

/-- A script that gives a response was written to the node and run. -/
theorem delivers_of_uploadAndRun
    {executor : Executor σ S}
    {node : NodeId}
    {script : String}
    {session left : S}
    {path : List (Moment σ)}
    {response : Response}
    (followed : (executor.uploadAndRun node script session).along path =
      some (.ok response, left)) :
    executor.Delivers script path response := by
  rcases (Activity.along_bind_iff _ _ _ _).1 followed with ⟨first, rest, token, rfl, -, tokened⟩
  rcases (Activity.along_bind_iff _ _ _ _).1 tokened with
    ⟨second, rest, delimiter, rfl, -, delimited⟩
  rcases (Activity.along_bind_iff _ _ _ _).1 delimited with
    ⟨writing, running, ⟨answer, written⟩, rfl, uploaded, proceeded⟩
  cases answer with
  | error failure =>
    rcases (Activity.along_done_iff _ _ _).1 proceeded with ⟨-, same⟩
    cases same
  | ok upload =>
    dsimp only at proceeded
    split at proceeded
    · rename_i accepted
      have writingInside : writing <:+: first ++ (second ++ (writing ++ running)) :=
        ⟨first ++ second, running, by simp⟩
      have runningInside : running <:+: first ++ (second ++ (writing ++ running)) :=
        ⟨first ++ second ++ writing, [], by simp⟩
      exact .intro ((occurs_of_executeIn uploaded).mono writingInside) accepted
        ((occurs_of_executeIn proceeded).mono runningInside)
    · rcases (Activity.along_done_iff _ _ _).1 proceeded with ⟨-, same⟩
      cases same

/-- A run that is answered has delivered its script. -/
theorem delivers_of_runScript
    {executor : Executor σ S}
    {node : Node}
    {script : String}
    {options : RunOptions}
    {path : List (Moment σ)}
    {response : Response}
    (followed : (executor.runScript node script options).along path = some (.ok response)) :
    executor.Delivers script path response := by
  rcases (Activity.along_bind_iff _ _ _ _).1 followed with
    ⟨opening, rest, opened, rfl, -, proceeded⟩
  cases opened with
  | error failure =>
    rcases (Activity.along_done_iff _ _ _).1 proceeded with ⟨-, same⟩
    cases same
  | ok session =>
    rcases (Activity.along_bind_iff _ _ _ _).1 proceeded with
      ⟨working, closing, ⟨result, left⟩, rfl, worked, closed⟩
    rcases (Activity.along_bind_iff _ _ _ _).1 closed with ⟨_, _, _, -, -, ended⟩
    rcases (Activity.along_done_iff _ _ _).1 ended with ⟨-, rfl⟩
    exact (delivers_of_uploadAndRun worked).mono ⟨opening, closing, by simp⟩

end Executor

namespace Service

/-- What becomes of a created node, with what its script came to. -/
inductive Told (service : Service σ S) (script : String) (path : List (Moment σ)) :
    Except NodeFailure Node × Option ScriptEnding → Prop where
  | unstarted {failure : NodeFailure} (other : ∀ source, failure ≠ .script source) :
      Told service script path (.error failure, none)
  | undelivered (failure : ScriptFailure) :
      Told service script path (.error (.script failure), some (.error failure))
  | answered {node : Node} {response : Response}
      (delivers : service.executor.Delivers script path response) :
      Told service script path (.ok node, some (.ok response))

theorem Told.mono
    {service : Service σ S}
    {script : String}
    {few many : List (Moment σ)}
    {telling : Except NodeFailure Node × Option ScriptEnding}
    (told : service.Told script few telling)
    (contained : few <:+: many) :
    service.Told script many telling := by
  cases told with
  | unstarted other => exact .unstarted other
  | undelivered failure => exact .undelivered failure
  | answered delivers => exact .answered (delivers.mono contained)

theorem ne_script_of_runningNode
    {settings : ServiceSettings}
    {settling : Settling}
    {failure : NodeFailure}
    (failed : runningNode settings settling = .error failure)
    (source : ScriptFailure) :
    failure ≠ .script source := by
  cases settling <;> cases failed <;> simp

/-- What is told of a script has happened along the path. -/
theorem told_of_tellingScript
    {service : Service σ S}
    {options : TemplateOptions}
    {script : String}
    (asked : options.script = some script)
    {node : Node}
    {path : List (Moment σ)}
    {telling : Except NodeFailure Node × Option ScriptEnding}
    (followed : (service.tellingScript options node).along path = some telling) :
    service.Told script path telling := by
  simp only [tellingScript, asked] at followed
  rcases (Activity.along_bind_iff _ _ _ _).1 followed with
    ⟨early, late, ending, rfl, ran, ended⟩
  cases ending with
  | error failure =>
    rcases (Activity.along_done_iff _ _ _).1 ended with ⟨-, rfl⟩
    exact .undelivered failure
  | ok response =>
    rcases (Activity.along_done_iff _ _ _).1 ended with ⟨-, rfl⟩
    exact .answered ((Executor.delivers_of_runScript ran).mono
      (List.prefix_append early late).isInfix)

/-- A created node fails on its way to the script, or its script is undelivered, or it is up. -/
theorem told_of_tellingBringUp
    {service : Service σ S}
    {options : TemplateOptions}
    {script : String}
    (asked : options.script = some script)
    {created : Node}
    {path : List (Moment σ)}
    {telling : Except NodeFailure Node × Option ScriptEnding}
    (followed : (service.tellingBringUp options created).along path = some telling) :
    service.Told script path telling := by
  rcases (Activity.along_bind_iff _ _ _ _).1 followed with
    ⟨looking, onwards, settling, rfl, -, proceeded⟩
  split at proceeded
  · rename_i failure failed
    rcases (Activity.along_done_iff _ _ _).1 proceeded with ⟨-, rfl⟩
    exact .unstarted (ne_script_of_runningNode failed)
  · rcases (Activity.along_bind_iff _ _ _ _).1 proceeded with
      ⟨waiting, working, ported, rfl, waited, worked⟩
    cases ported with
    | error failure =>
      rcases (Activity.along_done_iff _ _ _).1 worked with ⟨-, rfl⟩
      rcases portClosed_of_requirePort waited with ⟨port, rfl⟩
      exact .unstarted fun _ => NodeFailure.noConfusion
    | ok node =>
      exact (told_of_tellingScript asked worked).mono ⟨looking ++ waiting, [], by simp⟩

/-! ## The report -/

/-- The created nodes side by side on their way up, with what their scripts come to. -/
def tellAll
    (service : Service σ S)
    (options : TemplateOptions)
    (creations : List (Except ProviderFailure Node)) :
    Activity σ (List (Except NodeFailure Node × Option ScriptEnding)) :=
  Activity.gathered ((Results.values creations).map (service.tellingBringUp options))

/-- Bringing nodes up is the same without what is told of their scripts. -/
theorem bringUpAll_eq_telling
    (service : Service σ S)
    (options : TemplateOptions)
    (creations : List (Except ProviderFailure Node)) :
    service.bringUpAll options creations =
      List.map Prod.fst <$> service.tellAll options creations := by
  have members : (Results.values creations).map (service.bringUp options) =
      ((Results.values creations).map (service.tellingBringUp options)).map (Prod.fst <$> ·) := by
    rw [List.map_map]
    apply List.map_congr_left
    intro created _
    exact bringUp_eq_telling service options created
  rw [bringUpAll, members, Activity.gathered_map]
  rfl

/-- What a report says of the scripts of the created nodes. -/
structure ListsAnswered (creations : List (Except ProviderFailure Node))
    (tellings : List (Except NodeFailure Node × Option ScriptEnding)) (report : BatchReport) :
    Prop where
  /-- A node is listed when its script was answered, with whatever status. -/
  nodes : ∀ node, node ∈ report.nodes ↔
    ∃ response, (.ok node, some (.ok response)) ∈ tellings
  /-- A script fails when it could not be delivered. -/
  failures : ∀ source, .script source ∈ report.failures ↔
    (.error (.script source), some (.error source)) ∈ tellings
  complete : report.isComplete = true ↔ Results.failures creations = [] ∧
    ∀ telling ∈ tellings, ∃ node response, telling = (.ok node, some (.ok response))

/-- The report of a batch says of its scripts what it should. -/
theorem listsAnswered_reportOf
    {service : Service σ S}
    {script : String}
    {creations : List (Except ProviderFailure Node)}
    {tellings : List (Except NodeFailure Node × Option ScriptEnding)}
    (told : ∀ telling ∈ tellings, ∃ path, service.Told script path telling) :
    ListsAnswered creations tellings (reportOf creations (tellings.map Prod.fst)) := by
  constructor
  · intro node
    show node ∈ Node.sortById _ ↔ _
    rw [(sortById_perm _).mem_iff, Results.mem_values_iff, List.mem_map]
    constructor
    · rintro ⟨telling, member, up⟩
      rcases told telling member with ⟨path, tells⟩
      cases tells with
      | unstarted => cases up
      | undelivered => cases up
      | answered =>
        cases up
        exact ⟨_, member⟩
    · rintro ⟨response, member⟩
      exact ⟨_, member, rfl⟩
  · intro source
    simp only [reportOf, List.mem_append, Results.mem_failures_iff, List.mem_map]
    constructor
    · rintro (⟨refusal, -, same⟩ | ⟨telling, member, failed⟩)
      · cases same
      · rcases told telling member with ⟨path, tells⟩
        cases tells with
        | unstarted other => exact absurd (Except.error.inj failed) (other source)
        | undelivered =>
          cases failed
          exact member
        | answered => cases failed
    · intro member
      exact Or.inr ⟨_, member, rfl⟩
  · simp only [BatchReport.isComplete, reportOf, List.isEmpty_iff, List.append_eq_nil_iff,
      List.map_eq_nil_iff]
    refine and_congr_right fun _ => ?_
    constructor
    · intro none telling member
      rcases told telling member with ⟨path, tells⟩
      have unfailed : ∀ failure, telling.1 ≠ .error failure := by
        intro failure failed
        have among := Results.mem_failures_iff.2 (List.mem_map.2 ⟨telling, member, failed⟩)
        rw [none] at among
        cases among
      cases tells with
      | unstarted => exact absurd rfl (unfailed _)
      | undelivered => exact absurd rfl (unfailed _)
      | answered => exact ⟨_, _, rfl⟩
    · intro answered
      rw [List.eq_nil_iff_forall_not_mem]
      intro failure among
      rcases List.mem_map.1 (Results.mem_failures_iff.1 among) with ⟨telling, member, failed⟩
      rcases answered telling member with ⟨node, response, rfl⟩
      cases failed

/-- The report of a batch with a script lists the nodes whose script was written to them and
answered, whatever exit status the answers have, and its script failures are those that could not be
delivered. So a batch may be complete although every script has failed. -/
theorem runNodes_lists_nodes_with_answered_scripts
    {service : Service σ S}
    {tag script : String}
    {count : Nat}
    {template : Template}
    (asked : template.options.script = some script)
    {now later : Nat}
    {state reached : σ}
    {report : BatchReport}
    (finished : (service.runNodes tag count template).run now state =
      some (.ok report, later, reached)) :
    ∃ creations middle created tellings,
      (service.provider.createMany tag count template).run now state =
        some (creations, middle, created) ∧
      (service.tellAll template.options creations).run middle created =
        some (tellings, later, reached) ∧
      List.Forall₂ (fun node telling => ∃ path,
          path.Sublist ((service.tellAll template.options creations).moments middle created) ∧
          (service.tellingBringUp template.options node).along path = some telling ∧
          service.Told script path telling)
        (Results.values creations) tellings ∧
      report = reportOf creations (tellings.map Prod.fst) ∧
      ListsAnswered creations tellings report := by
  have named : Text.isBlankText tag = false := by
    cases blank : Text.isBlankText tag with
    | false => rfl
    | true => simp [runNodes, blank] at finished
  rw [run_runNodes named] at finished
  rcases Option.bind_eq_some_iff.1 finished with
    ⟨⟨creations, middle, created⟩, creating, ended⟩
  rcases sortCreations_cases creations with ⟨failure, -, -, sorted⟩ | ⟨-, sorted⟩
  · simp [sorted] at ended
  · simp only [sorted, bringUpAll_eq_telling, Activity.run_map, Option.map_map] at ended
    rcases Option.map_eq_some_iff.1 ended with ⟨⟨tellings, last, final⟩, brought, same⟩
    cases same
    have reached := Activity.allReach_of_run_gathered brought
    refine ⟨creations, middle, created, tellings, creating, brought, ?_, rfl, ?_⟩
    · refine (List.forall₂_map_left_iff.1 reached).imp ?_
      rintro node telling ⟨part, inside, followed⟩
      exact ⟨part, inside, followed, told_of_tellingBringUp asked followed⟩
    · apply listsAnswered_reportOf
      intro telling member
      rcases reached.exists_of_mem member with ⟨node, -, part, -, followed⟩
      exact ⟨part, told_of_tellingBringUp asked followed⟩

/-! ## An instance

A node on which every command but the writing of a script exits with status three. -/

def scriptedNode : Node :=
  { reachableNode "first" .running with credentials := some { account := "root", key := "key" } }

def scriptedProvider : Provider Unit where
  name := "scripted"
  create _ _ := .done (.ok scriptedNode)
  list _ := .done (.error unknownCall)
  get _ := .done (.ok scriptedNode)
  reboot _ := .done (.error unknownCall)
  destroy _ := .done (.error unknownCall)
  images := .done (.error unknownCall)
  sizes := .done (.error unknownCall)
  locations := .done (.error unknownCall)

def scriptedTemplate : Template :=
  { plainTemplate with options := { script := some "exit 3" } }

def failingScripts : Service Unit Unit :=
  let service := plainService scriptedProvider
  { service with
    executor :=
      { service.executor with
        transport :=
          { service.executor.transport with
            execute := fun _ command =>
              let status :=
                if command = ScriptCommand.run (ScriptCommand.path "token") then 3 else 0
              .done (.ok { exitStatus := some status }, ()) } } }

/-- The script has failed with status three, and the batch is complete. -/
theorem failed_script_completes_batch :
    ∃ creations middle created,
      (scriptedProvider.createMany "web" 1 scriptedTemplate).run 0 () =
        some (creations, middle, created) ∧
      (failingScripts.tellAll scriptedTemplate.options creations).run middle created =
        some ([(.ok scriptedNode, some (.ok { exitStatus := some 3 }))], 0, ()) ∧
      (failingScripts.runNodes "web" 1 scriptedTemplate).run 0 () =
        some (.ok { nodes := [scriptedNode], failures := [] }, 0, ()) ∧
      ListsAnswered creations [(.ok scriptedNode, some (.ok { exitStatus := some 3 }))]
        { nodes := [scriptedNode], failures := [] } := by
  have oneNode : Node.sortById [scriptedNode] = [scriptedNode] := List.mergeSort_singleton _
  have finished : (failingScripts.runNodes "web" 1 scriptedTemplate).run 0 () =
      some (.ok { nodes := [scriptedNode], failures := [] }, 0, ()) := by
    rw [← oneNode]
    rfl
  have told : (failingScripts.tellAll scriptedTemplate.options [.ok scriptedNode]).run 0 () =
      some ([(.ok scriptedNode, some (.ok { exitStatus := some 3 }))], 0, ()) := by
    rfl
  rcases runNodes_lists_nodes_with_answered_scripts rfl finished with
    ⟨creations, middle, created, tellings, creating, brought, -, -, lists⟩
  cases creating
  rw [told] at brought
  cases brought
  exact ⟨_, _, _, rfl, told, finished, lists⟩

end Service

end Fleet
