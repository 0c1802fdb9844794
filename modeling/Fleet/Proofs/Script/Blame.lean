import Fleet.Proofs.Activity.Group
import Fleet.Proofs.Script.CommandRuns
import Fleet.Proofs.Session.Wording
import Fleet.Proofs.Table
import Fleet.Session.Client

/-!
# Who is blamed for a failed run

A call on a session may end in an error, wherever the error comes from: the remote side, the
connection, or the local client. A run goes no further then, and reports the error with the stage
that it has come to. Whether it reports a rejected login is decided by the error alone, and not by
the side from which it comes: a client that may not be started, and whose message says so in the
words of a rejection, is taken for a rejected login.
-/

namespace Fleet

variable {σ S α : Type}

/-! ## Failures -/

/-- A failure that goes back to a session is a rejected login exactly when the session's error
blames the login. -/
def ScriptFailure.IsAttributed : ScriptFailure → Prop
  | authFailed _ error => error.Blames
  | transport _ _ error => ¬ error.Blames
  | _ => True

theorem ScriptFailure.ofSession_of_blames
    {error : SessionError}
    (blames : error.Blames)
    (node : NodeId)
    (stage : Stage) :
    ofSession node stage error = .authFailed node error :=
  if_pos (error.isAuthFailure_iff_blames.2 blames)

theorem ScriptFailure.ofSession_of_spares
    {error : SessionError}
    (spares : ¬ error.Blames)
    (node : NodeId)
    (stage : Stage) :
    ofSession node stage error = .transport node stage error :=
  if_neg (spares ∘ error.isAuthFailure_iff_blames.1)

theorem ScriptFailure.isAttributed_ofSession
    (node : NodeId)
    (stage : Stage)
    (error : SessionError) :
    (ofSession node stage error).IsAttributed := by
  by_cases blames : error.Blames
  · rw [ofSession_of_blames blames]
    exact blames
  · rw [ofSession_of_spares blames]
    exact blames

/-- A result that, if it is a failure, is attributed by the words of its source. -/
def Attributed (result : Except ScriptFailure α) : Prop :=
  ∀ failure, result = .error failure → failure.IsAttributed

theorem Attributed.ok (value : α) : Attributed (.ok value : Except ScriptFailure α) := nofun

theorem Attributed.error
    {failure : ScriptFailure}
    (attributed : failure.IsAttributed) :
    Attributed (.error failure : Except ScriptFailure α) := by
  rintro _ ⟨⟩
  exact attributed

theorem Attributed.ofSession
    (node : NodeId)
    (stage : Stage)
    (error : SessionError) :
    Attributed (.error (.ofSession node stage error) : Except ScriptFailure α) :=
  Attributed.error (ScriptFailure.isAttributed_ofSession node stage error)

/-! ## Runs, whatever happens -/

/-- What every attempt yields, the last one yields too. -/
theorem AttemptPolicy.yields_attemptFrom
    {ε : Type}
    {goal : Except ε α → Prop}
    {operation : Nat → Activity σ (Except ε α)}
    (yields : ∀ number, (operation number).Yields goal)
    (backoff number more : Nat) :
    (attemptFrom backoff operation number more).Yields goal := by
  induction more generalizing number with
  | zero => exact yields number
  | succ more inductionHypothesis =>
    apply (yields number).bind
    rintro (failure | value) meets
    · exact (Activity.Yields.anything _).bind fun _ _ => inductionHypothesis (number + 1)
    · exact meets

namespace Executor

open Activity (Yields)

theorem yields_logIn
    (transport : Transport σ S)
    (node : NodeId)
    (endpoint : Endpoint)
    (login : Credentials) :
    (logIn transport node endpoint login).Yields Attributed := by
  apply (Yields.anything _).bind
  rintro ⟨answer, session⟩ -
  cases answer with
  | ok => exact Attributed.ok _
  | error error =>
    exact (Yields.anything _).bind fun _ _ => Attributed.ofSession node _ error

/-- The failure to open a session is attributed by the words of its source. -/
theorem yields_openSession
    (executor : Executor σ S)
    (node : Node)
    (options : RunOptions) :
    (executor.openSession node options).Yields Attributed := by
  unfold openSession
  split
  · exact Attributed.error trivial
  · apply (Yields.anything _).bind
    intro isOpen _
    split
    · split
      · exact Attributed.error trivial
      · exact yields_logIn _ _ _ _
    · exact Attributed.error trivial

theorem yields_executeIn
    (transport : Transport σ S)
    (node : NodeId)
    (command : String)
    (session : S) :
    (executeIn transport node command session).Yields fun ending => Attributed ending.1 := by
  apply (Yields.anything _).bind
  rintro ⟨answer, session⟩ -
  cases answer with
  | ok response => exact Attributed.ok _
  | error error => exact Attributed.ofSession node _ error

/-- The failure of an upload or of the run is attributed by the words of its source. -/
theorem yields_uploadAndRun
    (executor : Executor σ S)
    (node : NodeId)
    (script : String)
    (session : S) :
    (executor.uploadAndRun node script session).Yields fun ending => Attributed ending.1 := by
  apply (Yields.anything _).bind
  intro token _
  apply (Yields.anything _).bind
  intro limit _
  apply (yields_executeIn _ _ _ _).bind
  rintro ⟨result, session⟩ attributed
  cases result with
  | error failure => exact attributed
  | ok upload =>
    show (if upload.exitStatus = some 0 then _ else _ : Activity _ _).Yields _
    split
    · exact yields_executeIn _ _ _ _
    · exact Attributed.error trivial

theorem yields_withSession
    (executor : Executor σ S)
    (node : Node)
    (options : RunOptions)
    {work : S → Activity σ (Except ScriptFailure Response × S)}
    (yields : ∀ session, (work session).Yields fun ending => Attributed ending.1) :
    (executor.withSession node options work).Yields Attributed := by
  apply (yields_openSession executor node options).bind
  rintro (failure | session) attributed
  · exact Attributed.error (attributed failure rfl)
  · apply (yields session).bind
    rintro ⟨result, session⟩ attributed
    exact (Yields.anything _).bind fun _ _ => attributed

theorem yields_runScript
    (executor : Executor σ S)
    (node : Node)
    (script : String)
    (options : RunOptions) :
    (executor.runScript node script options).Yields Attributed :=
  executor.yields_withSession node options (executor.yields_uploadAndRun node.id script)

theorem yields_runCommand
    (executor : Executor σ S)
    (node : Node)
    (command : String)
    (options : RunOptions) :
    (executor.runCommand node command options).Yields Attributed :=
  executor.yields_withSession node options (yields_executeIn executor.transport node.id command)

theorem yields_verifyOnce
    (executor : Executor σ S)
    (node : Node)
    (command marker : String)
    (options : RunOptions) :
    (executor.verifyOnce node command marker options).Yields Attributed := by
  apply (executor.yields_runCommand node command options).bind
  rintro (failure | response) attributed
  · exact attributed
  · show (if response.contains marker = true then _ else _ : Activity _ _).Yields _
    split
    · exact Attributed.ok _
    · exact Attributed.error trivial

theorem yields_verify
    (executor : Executor σ S)
    (node : Node)
    (command marker : String)
    (options : RunOptions)
    (policy : AttemptPolicy) :
    (executor.verify node command marker options policy).Yields Attributed :=
  AttemptPolicy.yields_attemptFrom
    (fun _ => executor.yields_verifyOnce node command marker options) _ _ _

/-- Side by side, every script is attributed as it is by itself. -/
theorem attributed_of_runScriptOnAll
    {executor : Executor σ S}
    {nodes : List Node}
    {script : String}
    {options : RunOptions}
    {now later : Nat}
    {state reached : σ}
    {results : Table (Except ScriptFailure Response)}
    (finished : (executor.runScriptOnAll nodes script options).run now state =
      some (results, later, reached))
    {id : NodeId}
    {result : Except ScriptFailure Response}
    (found : results.find? id = some result) :
    Attributed result := by
  rcases Activity.exists_of_run_bind finished with ⟨entries, ended, left, gathered, tabled⟩
  cases tabled
  have each : ∀ entry ∈ entries, Attributed entry.2 := by
    refine Yields.of_run_gathered ?_ gathered
    intro activity member
    rcases List.mem_map.1 member with ⟨node, _, rfl⟩
    apply (executor.yields_runScript node script options).bind
    intro result attributed
    exact attributed
  exact each (id, result) (Table.mem_of_find?_ofList found)

end Executor

/-! ## Runs on record -/

/-- The error in which a call on a session ended, with the stage of the call. -/
def SessionEvent.fault : SessionEvent → Option (Stage × SessionError)
  | connected (.error error) => some (.connecting, error)
  | executed (.error error) => some (.executing, error)
  | _ => none

/-- The errors in which calls on sessions ended. -/
def SessionRecord.faults (record : SessionRecord) : List (Stage × SessionError) :=
  record.filterMap SessionEvent.fault

/-- What a run on a node reports of the errors on its record. -/
inductive Reports (node : NodeId) : SessionRecord → Except ScriptFailure Response → Prop
  /-- No call failed, and no session is blamed. -/
  | faultless {record : SessionRecord} {result : Except ScriptFailure Response}
    (unfailed : record.faults = [])
    (unrelated : ∀ failure, result = .error failure → failure.source = none) :
    Reports node record result
  /-- One call failed, with an error that blames the login. -/
  | rejected {record : SessionRecord} {stage : Stage} {error : SessionError}
    (fault : record.faults = [(stage, error)]) (blames : error.Blames) :
    Reports node record (.error (.authFailed node error))
  /-- One call failed, with another error. -/
  | broken {record : SessionRecord} {stage : Stage} {error : SessionError}
    (fault : record.faults = [(stage, error)]) (spares : ¬ error.Blames) :
    Reports node record (.error (.transport node stage error))

namespace Reports

theorem of_fault
    {node : NodeId}
    {record : SessionRecord}
    {stage : Stage}
    {error : SessionError}
    (fault : record.faults = [(stage, error)]) :
    Reports node record (.error (.ofSession node stage error)) := by
  by_cases blames : error.Blames
  · rw [ScriptFailure.ofSession_of_blames blames]
    exact rejected fault blames
  · rw [ScriptFailure.ofSession_of_spares blames]
    exact broken fault blames

end Reports

namespace Executor

variable {executor : Executor σ S} {node : Node} {script command : String} {options : RunOptions}
  {now : Nat} {state : σ}

/-- At the end of its course a run reports the errors on its record. -/
theorem Course.reports
    {record : SessionRecord}
    {result : Except ScriptFailure Response}
    (course : executor.Course node script options now state record result) :
    Reports node.id record result := by
  cases course with
  | unreachable => exact .faultless rfl (by rintro _ ⟨⟩; rfl)
  | shut => exact .faultless rfl (by rintro _ ⟨⟩; rfl)
  | keyless => exact .faultless rfl (by rintro _ ⟨⟩; rfl)
  | refused opens error => exact .of_fault rfl
  | uploadFailed opens token limit error => exact .of_fault rfl
  | uploadRejected opens token limit upload rejected =>
      exact .faultless rfl (by rintro _ ⟨⟩; rfl)
  | ran opens token limit upload accepted answer =>
    cases answer with
    | ok response => exact .faultless rfl (by rintro _ ⟨⟩)
    | error error => exact .of_fault rfl

/-- At the end of its course a command reports the errors on its record. -/
theorem CommandCourse.reports
    {record : SessionRecord}
    {result : Except ScriptFailure Response}
    (course : executor.CommandCourse node command options now state record result) :
    Reports node.id record result := by
  cases course with
  | unreachable => exact .faultless rfl (by rintro _ ⟨⟩; rfl)
  | shut => exact .faultless rfl (by rintro _ ⟨⟩; rfl)
  | keyless => exact .faultless rfl (by rintro _ ⟨⟩; rfl)
  | refused opens error => exact .of_fault rfl
  | ran opens answer =>
    cases answer with
    | ok response => exact .faultless rfl (by rintro _ ⟨⟩)
    | error error => exact .of_fault rfl

section Command

variable {safe : SessionRecord → Prop} (trusted : ∀ record, safe record)

include trusted

theorem keeps_runCommand :
    (executor.recording.runCommand node command options).Keeps (fun whole => safe whole.2)
      (fun result _ whole => Reports node.id whole.2 result) now (state, []) := by
  apply (keeps_runCommand_behind trusted).mono
  rintro result later ⟨reached, record⟩ ⟨full, rfl, course⟩
  exact course.reports

end Command

/-- Whatever the transport does, the error in which a call on a session ends is what the run of a
script or of a command reports, and it is reported as a rejected login exactly when it is a
rejection or carries the words of one. In particular an error of the local client, which never
reached the node, is reported as a failed session exactly when no host, program or message in it
contains such words. The same goes for scripts on several nodes and for verifications. -/
theorem errors_are_attributed_by_their_words
    (executor : Executor σ S)
    (options : RunOptions)
    (now : Nat)
    (state : σ) :
    (∀ node script,
      ((executor.recording.runScript node script options).run now (state, [])).map
          (fun (result, later, reached, _) => (result, later, reached)) =
        (executor.runScript node script options).run now state ∧
      ∀ result later reached record,
        (executor.recording.runScript node script options).run now (state, []) =
          some (result, later, reached, record) → Reports node.id record result) ∧
    (∀ node command,
      ((executor.recording.runCommand node command options).run now (state, [])).map
          (fun (result, later, reached, _) => (result, later, reached)) =
        (executor.runCommand node command options).run now state ∧
      ∀ result later reached record,
        (executor.recording.runCommand node command options).run now (state, []) =
          some (result, later, reached, record) → Reports node.id record result) ∧
    (∀ nodes script results later reached,
      (executor.runScriptOnAll nodes script options).run now state =
        some (results, later, reached) →
      ∀ id failure, results.find? id = some (.error failure) → failure.IsAttributed) ∧
    (∀ node command marker policy failure later reached,
      (executor.verify node command marker options policy).run now state =
        some (.error failure, later, reached) → failure.IsAttributed) := by
  refine ⟨fun node script => ⟨?_, ?_⟩, fun node command => ⟨?_, ?_⟩, ?_, ?_⟩
  · exact shadows_runScript executor node script options now state []
  · intro result later reached record ended
    exact Course.reports (keeps_runScript.goal_of_run ended)
  · exact shadows_runCommand executor node command options now state []
  · intro result later reached record ended
    have trusted : ∀ record : SessionRecord, (fun _ : SessionRecord => True) record :=
      fun _ => trivial
    exact (keeps_runCommand trusted).goal_of_run ended
  · intro nodes script results later reached finished id failure found
    exact attributed_of_runScriptOnAll finished found failure rfl
  · intro node command marker policy failure later reached finished
    exact (executor.yields_verify node command marker options policy).of_run finished failure rfl

/-! ## An instance

A client program that may not be executed, on a node that is never asked. -/

def forbiddenClient : Executor Unit ClientSession where
  transport := ClientSession.transport {} "key" fun invocation =>
    pure (.error (.spawn invocation.program "Permission denied (os error 13)"))
  probe _ := pure true
  freshToken := pure "token"

def silentNode : Node where
  id := "n1"
  tag := "web"
  name := "web-1"
  state := .running
  image := "image"
  location := "zone"
  publicAddresses := [.v4 198 51 100 1]
  privateAddresses := []
  credentials := some { account := "root", key := "node-key" }
  metadata := Table.empty

/-- The node has rejected nothing, and the login is blamed. -/
theorem forbidden_client_is_taken_for_rejected_login :
    ∃ later reached record,
      (forbiddenClient.recording.runScript silentNode "true" {}).run 0 ((), []) =
        some (.error (.authFailed "n1" (.spawn "ssh" "Permission denied (os error 13)")), later,
          reached, record) := by
  obtain ⟨result, later, reached, record, ended, fault⟩ : ∃ result later reached record,
      (forbiddenClient.recording.runScript silentNode "true" {}).run 0 ((), []) =
        some (result, later, reached, record) ∧
      record.faults =
        [(.connecting, .spawn "ssh" "Permission denied (os error 13)")] :=
    ⟨_, _, _, _, rfl, rfl⟩
  have blames : (SessionError.spawn "ssh" "Permission denied (os error 13)").Blames :=
    .worded (List.mem_cons_of_mem _ List.mem_cons_self) (by decide +kernel)
  have reports := ((errors_are_attributed_by_their_words forbiddenClient {} 0 ()).1 silentNode
    "true").2 result later reached record ended
  refine ⟨later, reached, record, ?_⟩
  rw [ended]
  cases reports with
  | faultless unfailed =>
    rw [fault] at unfailed
    cases unfailed
  | rejected here =>
    rw [fault] at here
    cases here
    rfl
  | broken here spares =>
    rw [fault] at here
    cases here
    exact absurd blames spares

end Executor

end Fleet
