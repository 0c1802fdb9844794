import Fleet.Proofs.Script.Attempts
import Fleet.Proofs.Service.FirstScript
import Fleet.Service.Recorded

/-!
# One rule for all logins

A service logs in at nodes in three ways: to run the script of a template on a node that is brought
up, to run a script on the nodes that satisfy a condition, and to verify a node. Each of them makes
its options in its own way, and the account of the provider is added in one place and used in
another one. Still they are all attempts to log in with what one rule presents.

What is said here holds at every moment of an operation, whether it is finished by then or not, and
whatever else goes on in the world.
-/

namespace Fleet

open Activity (Delay Echoes Status)

variable {σ S : Type}

namespace Service

/-! ## The way to the script -/

/-- What a created node has to come through before its script is run: it has to settle, and to open
the port that the options ask for. -/
def approach
    (service : Service σ S)
    (options : TemplateOptions)
    (created : Node) :
    Activity σ (Except NodeFailure Node) := do
  match runningNode service.settings (← service.awaitSettled created.id created.state) with
  | .error failure => pure (.error failure)
  | .ok node => service.requirePort options node

/-- A node is approached before its script is run. -/
theorem bringUp_eq_approach
    (service : Service σ S)
    (options : TemplateOptions)
    (created : Node) :
    service.bringUp options created = (service.approach options created).bind fun
      | .error failure => .done (.error failure)
      | .ok node => service.requireScript options node := by
  rw [bringUp, approach, Activity.bind_eq_bind, Activity.bind_eq_bind, Activity.bind_assoc]
  congr 1
  funext settling
  cases runningNode service.settings settling with
  | error failure => rfl
  | ok node =>
    show (service.requirePort options node).bind _ = (service.requirePort options node).bind _
    congr 1

section Recording

variable (service : Service σ S)

/-- A wait for a node makes no session. -/
theorem awaitSettled_recording
    (id : NodeId)
    (known : NodeState) :
    service.recordingSessions.awaitSettled id known =
      (service.awaitSettled id known).focus (Part.first σ SessionRecord) := by
  have looks : look service.recordingSessions.provider id = fun sighting =>
      (look service.provider id sighting).focus (Part.first σ SessionRecord) := by
    funext sighting
    rw [look, look, Activity.bind_eq_bind, Activity.bind_eq_bind, Activity.focus_bind]
    rfl
  rw [awaitSettled, awaitSettled, looks]
  rw [Activity.bind_eq_bind, Activity.bind_eq_bind, Activity.focus_bind,
    ← PollPolicy.follow_focus (Activity.exact_first σ SessionRecord)]
  rfl

theorem awaitPort_recording
    (node : Node)
    (wait : PortWait) :
    service.recordingSessions.awaitPort node wait =
      (service.awaitPort node wait).focus (Part.first σ SessionRecord) := by
  rw [awaitPort, awaitPort]
  cases node.primaryAddress with
  | none => rfl
  | some address => exact Executor.awaitSocket_recording service.executor _ _

/-- A wait for a port makes no session. -/
theorem requirePort_recording
    (options : TemplateOptions)
    (node : Node) :
    service.recordingSessions.requirePort options node =
      (service.requirePort options node).focus (Part.first σ SessionRecord) := by
  rw [requirePort, requirePort]
  cases options.portWait with
  | none => rfl
  | some wait =>
    dsimp only
    rw [awaitPort_recording, Activity.bind_eq_bind, Activity.bind_eq_bind, Activity.focus_bind]
    congr 1
    funext isOpen
    cases isOpen <;> rfl

/-- The way to the script does not touch the record. -/
theorem approach_recording
    (options : TemplateOptions)
    (created : Node) :
    service.recordingSessions.approach options created =
      (service.approach options created).focus (Part.first σ SessionRecord) := by
  have settings : service.recordingSessions.settings = service.settings := rfl
  rw [approach, approach, awaitSettled_recording, Activity.bind_eq_bind, Activity.bind_eq_bind,
    Activity.focus_bind]
  congr 1
  funext settling
  rw [settings]
  cases runningNode service.settings settling with
  | error failure => rfl
  | ok node => exact requirePort_recording service options node

theorem listMatching_recording (condition : Node → Bool) :
    service.recordingSessions.listMatching condition =
      (service.listMatching condition).focus (Part.first σ SessionRecord) := by
  simp only [listMatching, listAll, calling, Activity.bind_eq_bind, Activity.focus_bind]
  rfl

/-! ## Forgetting the record -/

theorem echoes_requireScript
    (options : TemplateOptions)
    (node : Node) :
    Echoes Prod.fst id (service.recordingSessions.requireScript options node)
      (service.requireScript options node) := by
  rw [requireScript, requireScript]
  cases options.script with
  | none => exact .done rfl
  | some script =>
    apply (Executor.echoes_runScript service.executor node script
      (service.scriptOptions options)).bind
    rintro (failure | response) <;> exact .done rfl

theorem echoes_bringUp
    (options : TemplateOptions)
    (created : Node) :
    Echoes Prod.fst id (service.recordingSessions.bringUp options created)
      (service.bringUp options created) := by
  rw [bringUp_eq_approach, bringUp_eq_approach, approach_recording]
  apply (Echoes.focus (service.approach options created)).bind
  rintro (failure | node)
  · exact .done rfl
  · exact echoes_requireScript service options node

/-- A batch is created in the same way without the record of sessions. -/
theorem echoes_runNodes
    (tag : String)
    (count : Nat)
    (template : Template) :
    Echoes Prod.fst id (service.recordingSessions.runNodes tag count template)
      (service.runNodes tag count template) := by
  rw [runNodes, runNodes]
  split
  · exact .done rfl
  · apply (Echoes.focus (service.provider.createMany tag count template)).bind
    intro creations
    dsimp only [id]
    cases sortCreations creations with
    | error error => exact .done rfl
    | ok sorted =>
      apply (Echoes.gathered (echoes_bringUp service template.options) sorted.1).bind
      intro outcomes
      rw [List.map_id]
      exact .done rfl

theorem echoes_runScriptMatching
    (condition : Node → Bool)
    (script : String)
    (options : RunOptions) :
    Echoes Prod.fst id (service.recordingSessions.runScriptMatching condition script options)
      (service.runScriptMatching condition script options) := by
  rw [runScriptMatching, runScriptMatching, listMatching_recording]
  apply (Echoes.focus (service.listMatching condition)).bind
  rintro (error | nodes)
  · exact .done rfl
  · exact (Executor.echoes_runScriptOnAll service.executor nodes script
      (withLoginAccount service.provider options)).bind fun _ => .done rfl

theorem echoes_verify
    (node : Node)
    (command marker : String)
    (options : RunOptions) :
    Echoes Prod.fst id (service.recordingSessions.verify node command marker options)
      (service.verify node command marker options) :=
  Executor.echoes_verify service.executor node command marker
    (withLoginAccount service.provider options) service.settings.verification

end Recording

/-! ## Courses of operations -/

/-- The login port of nodes. -/
def loginPort : Nat := 22

/-- How a created node is brought up along a path, with what is noted of sessions and how it stands.
The script is an attempt to log in, with the sources that the template and the provider give for the
node as it runs. -/
inductive Bootstrap (service : Service σ S) (options : TemplateOptions) (created : Node) :
    List (Moment (σ × SessionRecord)) → SessionRecord →
      Status (Except NodeFailure Node) → Prop where
  /-- The script is not reached yet. -/
  | underway {path : List (Moment (σ × SessionRecord))} {delay : Delay}
      (stands : (service.approach options created).status (path.map Moment.inner) =
        some (.delayed delay)) :
    Bootstrap service options created path [] (.delayed delay)
  /-- The script is not reached at all. -/
  | failed {path : List (Moment (σ × SessionRecord))} {failure : NodeFailure}
      (ended : (service.approach options created).along (path.map Moment.inner) =
        some (.error failure)) :
    Bootstrap service options created path [] (.ended (.error failure))
  /-- There is no script. -/
  | unscripted {path : List (Moment (σ × SessionRecord))} {node : Node}
      (ready : (service.approach options created).along (path.map Moment.inner) = some (.ok node))
      (nothing : options.script = none) :
    Bootstrap service options created path [] (.ended (.ok node))
  | scripted {early late : List (Moment (σ × SessionRecord))} {node : Node} {script : String}
      {events : SessionRecord} {status : Status ScriptEnding}
      (ready : (service.approach options created).along (early.map Moment.inner) = some (.ok node))
      (asked : options.script = some script)
      (attempt : service.executor.Attempt service.settings.socketWait
        (options.sources service.provider.loginAccount node) node loginPort late events status) :
    Bootstrap service options created (early ++ late) events
      (status.map fun ending => (ending.mapError .script).map fun _ => node)

/-- Nodes that are attended to side by side, each in its course along a part of the path. Together
they have noted what is on record, and the whole is not stuck while one of them can go on. -/
structure Attended {β γ : Type} (nodes : List Node)
    (course : Node → List (Moment (σ × SessionRecord)) → SessionRecord → Status β → Prop)
    (path : List (Moment (σ × SessionRecord))) (events : SessionRecord) (status : Status γ)
    (tellings : List (SessionRecord × Status β)) : Prop where
  each : List.Forall₂ (fun node telling => ∃ part, part.Sublist path ∧
    course node part telling.1 telling.2) nodes tellings
  together : events.Perm (tellings.flatMap Prod.fst)
  goesOn : status = .delayed .stuck → .delayed .pending ∉ tellings.map Prod.snd

/-- The course of a batch: what is noted of sessions comes from the scripts of the created nodes,
and the report is made of what they came to. -/
inductive BatchCourse (service : Service σ S) (tag : String) (count : Nat) (template : Template) :
    List (Moment (σ × SessionRecord)) → SessionRecord →
      Status (Except ServiceError BatchReport) → Prop where
  | refused (blank : Text.isBlankText tag = true) :
    BatchCourse service tag count template [] []
      (.ended (.error (.invalidRequest "tag must not be blank")))
  | creating {path : List (Moment (σ × SessionRecord))} {delay : Delay}
      (stands : (service.provider.createMany tag count template).status
        (path.map Moment.inner) = some (.delayed delay)) :
    BatchCourse service tag count template path [] (.delayed delay)
  | rejected {path : List (Moment (σ × SessionRecord))}
      {creations : List (Except ProviderFailure Node)} {error : ServiceError}
      (created : (service.provider.createMany tag count template).along (path.map Moment.inner) =
        some creations)
      (failed : sortCreations creations = .error error) :
    BatchCourse service tag count template path [] (.ended (.error error))
  | attended {early late : List (Moment (σ × SessionRecord))} {events : SessionRecord}
      {creations : List (Except ProviderFailure Node)}
      {tellings : List (SessionRecord × Status (Except NodeFailure Node))}
      {status : Status (Except ServiceError BatchReport)}
      (created : (service.provider.createMany tag count template).along (early.map Moment.inner) =
        some creations)
      (attended : Attended (Results.values creations) (service.Bootstrap template.options) late
        events status tellings)
      (reported : ∀ result, status = .ended result → ∃ outcomes,
        tellings.map Prod.snd = outcomes.map .ended ∧
          result = .ok (reportOf creations outcomes)) :
    BatchCourse service tag count template (early ++ late) events status

/-- A run of a script on one of several nodes: an attempt to log in, whose ending is kept with the
name of the node. -/
def ScriptRun
    (service : Service σ S)
    (options : RunOptions)
    (node : Node)
    (path : List (Moment (σ × SessionRecord)))
    (events : SessionRecord)
    (status : Status (NodeId × ScriptEnding)) :
    Prop :=
  ∃ own, status = own.map (node.id, ·) ∧
    service.executor.Attempt options.socketWait
      (options.sources service.provider.loginAccount node) node options.port path events own

/-- The course of a script on the nodes that satisfy a condition: what is noted of sessions comes
from its runs on the nodes that are listed, and the report has their results. -/
inductive ScriptCourse (service : Service σ S) (condition : Node → Bool) (options : RunOptions) :
    List (Moment (σ × SessionRecord)) → SessionRecord →
      Status (Except ServiceError ScriptReport) → Prop where
  | listing {path : List (Moment (σ × SessionRecord))} {delay : Delay}
      (stands : (service.listMatching condition).status (path.map Moment.inner) =
        some (.delayed delay)) :
    ScriptCourse service condition options path [] (.delayed delay)
  | unlisted {path : List (Moment (σ × SessionRecord))} {error : ServiceError}
      (failed : (service.listMatching condition).along (path.map Moment.inner) =
        some (.error error)) :
    ScriptCourse service condition options path [] (.ended (.error error))
  | attended {early late : List (Moment (σ × SessionRecord))} {events : SessionRecord}
      {nodes : List Node} {tellings : List (SessionRecord × Status (NodeId × ScriptEnding))}
      {status : Status (Except ServiceError ScriptReport)}
      (listed : (service.listMatching condition).along (early.map Moment.inner) = some (.ok nodes))
      (attended : Attended nodes (service.ScriptRun options) late events status tellings)
      (reported : ∀ result, status = .ended result → ∃ results,
        tellings.map Prod.snd = results.map .ended ∧
        result = .ok { results := Table.ofList results }) :
    ScriptCourse service condition options (early ++ late) events status

section Courses

variable {service : Service σ S} {path : List (Moment (σ × SessionRecord))}
  {events : SessionRecord}

/-- What is noted of sessions while a node is brought up is noted of its script. -/
theorem bootstrap_bringUp
    {options : TemplateOptions}
    {created : Node}
    {status : Status (Except NodeFailure Node)}
    (told : (service.recordingSessions.bringUp options created).noted Prod.snd path =
      some (events, status)) :
    service.Bootstrap options created path events status := by
  rw [bringUp_eq_approach, approach_recording] at told
  rcases Activity.noted_focus_first_bind told with
    ⟨delay, rfl, rfl, stands⟩ | ⟨early, late, approached, rfl, came, following⟩
  · exact .underway stands
  · cases approached with
    | error failure =>
      obtain ⟨rfl, rfl, rfl⟩ := Activity.noted_done_iff.1 following
      rw [List.append_nil]
      exact .failed came
    | ok node =>
      dsimp only at following
      rw [requireScript] at following
      cases asked : options.script with
      | none =>
        rw [asked] at following
        obtain ⟨rfl, rfl, rfl⟩ := Activity.noted_done_iff.1 following
        rw [List.append_nil]
        exact .unscripted came asked
      | some script =>
        rw [asked] at following
        obtain ⟨own, ran, rfl⟩ := Activity.noted_bind_done following
          (fun ending => (ending.mapError NodeFailure.script).map fun _ => node)
          fun ending => by cases ending <;> rfl
        exact .scripted came asked
          (Executor.attempt_runScript script (fun _ => credentialsFor_scriptOptions_iff) ran)

/-- Nodes side by side are attended to, and what they come to is reported in the end. -/
theorem attended_of_noted_gathered
    {β γ : Type}
    {nodes : List Node}
    {work : Node → Activity (σ × SessionRecord) β}
    {course : Node → List (Moment (σ × SessionRecord)) → SessionRecord → Status β → Prop}
    (courses : ∀ node {path events status},
      (work node).noted Prod.snd path = some (events, status) → course node path events status)
    {next : List β → Activity (σ × SessionRecord) γ}
    {status : Status γ}
    (told : ((Activity.gathered (nodes.map work)).bind next).noted Prod.snd path =
      some (events, status))
    {report : List β → γ}
    (ends : ∀ results, next results = .done (report results)) :
    ∃ tellings, Attended nodes course path events status tellings ∧
      ∀ result, status = .ended result → ∃ results,
        tellings.map Prod.snd = results.map .ended ∧ result = report results := by
  obtain ⟨own, gathered, rfl⟩ := Activity.noted_bind_done told report ends
  obtain ⟨tellings, share, follows⟩ := Activity.share_of_noted_gathered gathered
  refine ⟨tellings,
    ⟨(List.forall₂_map_left_iff.1 share.each).imp ?_, share.together, ?_⟩, ?_⟩
  · rintro node telling ⟨part, inside, noted⟩
    exact ⟨part, inside, courses node noted⟩
  · cases own with
    | ended results => exact fun same => by cases same
    | delayed delay =>
      rintro ⟨⟩
      exact follows.stuck rfl
  · cases own with
    | ended results =>
      rintro _ ⟨⟩
      exact ⟨results, follows.ended results rfl, rfl⟩
    | delayed delay => exact fun _ same => by cases same

/-- What is noted of sessions while a batch is created is noted of its scripts. -/
theorem batchCourse_runNodes
    {tag : String}
    {count : Nat}
    {template : Template}
    {status : Status (Except ServiceError BatchReport)}
    (told : (service.recordingSessions.runNodes tag count template).noted Prod.snd path =
      some (events, status)) :
    service.BatchCourse tag count template path events status := by
  rw [runNodes] at told
  split at told
  case isTrue blank =>
    obtain ⟨rfl, rfl, rfl⟩ := Activity.noted_done_iff.1 told
    exact .refused blank
  case isFalse =>
    rcases Activity.noted_focus_first_bind told with
      ⟨delay, rfl, rfl, stands⟩ | ⟨early, late, creations, rfl, created, following⟩
    · exact .creating stands
    · rcases sortCreations_cases creations with ⟨failure, -, -, sorted⟩ | ⟨-, sorted⟩
      · rw [sorted] at following
        obtain ⟨rfl, rfl, rfl⟩ := Activity.noted_done_iff.1 following
        rw [List.append_nil]
        exact .rejected created sorted
      · rw [sorted] at following
        obtain ⟨tellings, attended, reported⟩ :=
          attended_of_noted_gathered (fun _ _ _ _ => bootstrap_bringUp) following
            fun outcomes => by rw [sortResults_eq]; rfl
        exact .attended created attended reported

theorem scriptRun_runScript
    {script : String}
    {options : RunOptions}
    {node : Node}
    {status : Status (NodeId × ScriptEnding)}
    (told : ((service.executor.recording.runScript node script
      (withLoginAccount service.provider options)).bind fun ending =>
        .done (node.id, ending)).noted Prod.snd path = some (events, status)) :
    service.ScriptRun options node path events status := by
  obtain ⟨own, ran, rfl⟩ := Activity.noted_bind_done told _ fun _ => rfl
  exact ⟨own, rfl,
    Executor.attempt_runScript script (fun _ => credentialsFor_withLoginAccount_iff) ran⟩

/-- What is noted of sessions while a script runs on some nodes is noted of its runs. -/
theorem scriptCourse_runScriptMatching
    {condition : Node → Bool}
    {script : String}
    {options : RunOptions}
    {status : Status (Except ServiceError ScriptReport)}
    (told : (service.recordingSessions.runScriptMatching condition script options).noted Prod.snd
      path = some (events, status)) :
    service.ScriptCourse condition options path events status := by
  rw [runScriptMatching, listMatching_recording] at told
  rcases Activity.noted_focus_first_bind told with
    ⟨delay, rfl, rfl, stands⟩ | ⟨early, late, answer, rfl, listed, following⟩
  · exact .listing stands
  · cases answer with
    | error error =>
      obtain ⟨rfl, rfl, rfl⟩ := Activity.noted_done_iff.1 following
      rw [List.append_nil]
      exact .unlisted listed
    | ok nodes =>
      dsimp only at following
      rw [Executor.runScriptOnAll, Activity.bind_eq_bind, Activity.bind_eq_bind,
        Activity.bind_assoc] at following
      obtain ⟨tellings, attended, reported⟩ :=
        attended_of_noted_gathered (fun _ _ _ _ => scriptRun_runScript) following fun _ => rfl
      exact .attended listed attended reported

end Courses

/-- One rule decides about all logins of a service, at every moment of its operations. The script of
a batch, a script on the nodes that satisfy a condition and the verification of a node are attempts
to log in with what the sources present that the options, the provider and the node's record name:
after the port has opened a session is made and asked to connect, once, with the login that they
present, and when they present none the attempt ends with that failure and makes no session. No
operation ends or gets stuck while an attempt is about to make its session. The record of sessions
that tells all this changes nothing about the operations. -/
theorem one_rule_presents_logins (service : Service σ S) :
    (∀ tag count template,
      Echoes Prod.fst id (service.recordingSessions.runNodes tag count template)
        (service.runNodes tag count template) ∧
      ∀ path events status,
        (service.recordingSessions.runNodes tag count template).noted Prod.snd path =
          some (events, status) →
        service.BatchCourse tag count template path events status) ∧
    (∀ condition script options,
      Echoes Prod.fst id (service.recordingSessions.runScriptMatching condition script options)
        (service.runScriptMatching condition script options) ∧
      ∀ path events status,
        (service.recordingSessions.runScriptMatching condition script options).noted Prod.snd path =
          some (events, status) →
        service.ScriptCourse condition options path events status) ∧
    ∀ node command marker options,
      Echoes Prod.fst id (service.recordingSessions.verify node command marker options)
        (service.verify node command marker options) ∧
      ∀ path events status,
        (service.recordingSessions.verify node command marker options).noted Prod.snd path =
          some (events, status) →
        service.executor.Verification options.socketWait
          (options.sources service.provider.loginAccount node) node options.port path events
          status := by
  refine ⟨fun tag count template => ⟨echoes_runNodes service tag count template, ?_⟩,
    fun condition script options =>
      ⟨echoes_runScriptMatching service condition script options, ?_⟩,
    fun node command marker options =>
      ⟨echoes_verify service node command marker options, ?_⟩⟩
  · exact fun _ _ _ => batchCourse_runNodes
  · exact fun _ _ _ => scriptCourse_runScriptMatching
  · exact fun _ _ _ => Executor.verification_verify command marker service.settings.verification
      fun _ => credentialsFor_withLoginAccount_iff

/-! ## An instance

A provider that names an account for nodes whose records carry no credentials. -/

def namingProvider : Provider Unit :=
  { scriptedProvider with
    loginAccount := some "admin"
    list := fun _ => .done (.ok [reachableNode "first" .running])
    get := fun _ => .done (.ok (reachableNode "first" .running))
    createMany := fun _ _ _ => .done [.ok (reachableNode "first" .running)] }

def namingService : Service Unit Unit :=
  plainService namingProvider

def keyedScript : Template :=
  { plainTemplate with options := { script := some "true", privateKey := some "K" } }

def firstPort : Endpoint := { address := .v4 198 51 100 1, port := 22 }

/-- What an operation notes by itself from the start of the clock, and how it stands in the end. -/
def notedAlone {α : Type} (operation : Activity (Unit × SessionRecord) α) :
    Option (SessionRecord × Status α) :=
  operation.noted Prod.snd (operation.moments 0 ((), []))

/-- The account of the provider is completed by the key of a template, it is of no use without a
key, and it has no part in an override. -/
theorem account_of_provider_is_completed_or_left :
    (∃ path events status,
      (namingService.recordingSessions.runNodes "web" 1 keyedScript).noted Prod.snd path =
        some (.created firstPort ⟨"admin", "K"⟩ :: .connecting :: events, status) ∧
      namingService.BatchCourse "web" 1 keyedScript path
        (.created firstPort ⟨"admin", "K"⟩ :: .connecting :: events) status) ∧
    (∃ path report,
      (namingService.recordingSessions.runScriptMatching (fun _ => true) "true" {}).noted Prod.snd
        path = some ([], .ended (.ok report)) ∧
      report.failures = [("first", .missingCredentials "first")] ∧
      namingService.ScriptCourse (fun _ => true) {} path [] (.ended (.ok report))) ∧
    ∃ path events status,
      (namingService.recordingSessions.verify (reachableNode "first" .running) "true" ""
        { override := some ⟨"root", "R"⟩, privateKey := some "K" }).noted Prod.snd path =
          some (.created firstPort ⟨"root", "R"⟩ :: .connecting :: events, status) ∧
      namingService.executor.Verification PollPolicy.forSockets
        { override := some ⟨"root", "R"⟩, key := some "K", fallback := none,
          standard := some "admin", own := none }
        (reachableNode "first" .running) 22 path
        (.created firstPort ⟨"root", "R"⟩ :: .connecting :: events) status := by
  have brought : notedAlone (namingService.recordingSessions.runNodes "web" 1 keyedScript) =
    some (.created firstPort ⟨"admin", "K"⟩ :: .connecting :: _, _) := rfl
  have ran : notedAlone (namingService.recordingSessions.runScriptMatching (fun _ => true) "true"
    {}) = some ([], .ended (.ok _)) := rfl
  have verified : notedAlone (namingService.recordingSessions.verify
    (reachableNode "first" .running) "true" ""
    { override := some ⟨"root", "R"⟩, privateKey := some "K" }) =
      some (.created firstPort ⟨"root", "R"⟩ :: .connecting :: _, _) := rfl
  refine ⟨⟨_, _, _, brought, ?_⟩, ⟨_, _, ran, rfl, ?_⟩, ⟨_, _, _, verified, ?_⟩⟩
  · exact ((one_rule_presents_logins namingService).1 _ _ _).2 _ _ _ brought
  · exact ((one_rule_presents_logins namingService).2.1 _ _ _).2 _ _ _ ran
  · exact ((one_rule_presents_logins namingService).2.2 _ _ _ _).2 _ _ _ verified

end Service

end Fleet
