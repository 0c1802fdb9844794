import Fleet.Proofs.Activity.Echo
import Fleet.Proofs.Retry.Polling
import Fleet.Script.Recorded

/-!
# Forgetting the record

An executor that keeps a record echoes the executor under it: without the record, a run has the same
result at the same instant, and leaves the same state. A wait for a port does not even look at the
record.
-/

namespace Fleet

open Activity (Echoes Shadows)

variable {σ S α : Type}

/-- Attempts echo others when each attempt does. -/
theorem AttemptPolicy.echoes_attemptFrom
    {τ ε : Type}
    {erase : τ → σ}
    {operation : Nat → Activity τ (Except ε α)}
    {plain : Nat → Activity σ (Except ε α)}
    (echoes : ∀ number, Echoes erase id (operation number) (plain number))
    (backoff : Nat)
    {number more : Nat} :
    Echoes erase id (attemptFrom backoff operation number more)
      (attemptFrom backoff plain number more) := by
  induction more generalizing number with
  | zero => exact echoes number
  | succ more inductionHypothesis =>
    apply (echoes number).bind
    rintro (failure | result)
    · exact (Echoes.sleep backoff).bind fun _ => inductionHypothesis
    · exact .done rfl

namespace SessionRecord

theorem echoes_around
    (before : SessionRecord)
    (call : Activity σ (α × S))
    (after : α → SessionRecord) :
    Echoes Prod.fst (Prod.map id Tracked.session) (around before call after) call := by
  have echoes : Echoes Prod.fst (Prod.map id Tracked.session) (around before call after)
      (call.bind .done) :=
    .aside (fun _ _ => rfl) fun _ _ =>
      (Echoes.focus call).bind fun _ => .aside (fun _ _ => rfl) fun _ _ => .done rfl
  rwa [Activity.bind_done] at echoes

theorem echoes_connect
    (transport : Transport σ S)
    (tracked : Tracked S) :
    Echoes Prod.fst (Prod.map id Tracked.session) (transport.recording.connect tracked)
      (transport.connect tracked.session) :=
  echoes_around (tracked.unrecorded ++ [SessionEvent.connecting])
    (transport.connect tracked.session) fun answer => [.connected answer]

theorem echoes_execute
    (transport : Transport σ S)
    (tracked : Tracked S)
    (command : String) :
    Echoes Prod.fst (Prod.map id Tracked.session) (transport.recording.execute tracked command)
      (transport.execute tracked.session command) :=
  echoes_around (tracked.unrecorded ++ [SessionEvent.executing command])
    (transport.execute tracked.session command) fun answer => [.executed answer]

theorem echoes_disconnect
    (transport : Transport σ S)
    (tracked : Tracked S) :
    Echoes Prod.fst id (discard (transport.recording.disconnect tracked))
      (discard (transport.disconnect tracked.session)) := by
  have echoes : Echoes Prod.fst Tracked.session (transport.recording.disconnect tracked)
      ((transport.disconnect tracked.session).bind .done) :=
    .aside (fun _ _ => rfl) fun _ _ => (Echoes.focus _).bind fun _ => .done rfl
  rw [Activity.bind_done] at echoes
  exact echoes.bind fun _ => .done rfl

end SessionRecord

namespace Executor

open SessionRecord

theorem awaitSocket_recording
    (executor : Executor σ S)
    (policy : PollPolicy)
    (endpoint : Endpoint) :
    awaitSocket executor.recording.probe policy endpoint =
      (awaitSocket executor.probe policy endpoint).focus (Part.first σ SessionRecord) :=
  PollPolicy.waitUntil_focus (Activity.exact_first σ SessionRecord) policy
    (executor.probe endpoint)

/-- Logging in is the same without the record. -/
theorem echoes_logIn
    (transport : Transport σ S)
    (node : NodeId)
    (endpoint : Endpoint)
    (login : Credentials) :
    Echoes Prod.fst (Except.map Tracked.session) (logIn transport.recording node endpoint login)
      (logIn transport node endpoint login) := by
  apply (echoes_connect transport (transport.recording.create endpoint login)).bind
  rintro ⟨answer, session⟩
  cases answer with
  | ok => exact .done rfl
  | error error =>
    apply (echoes_disconnect transport session).bind
    intro _
    exact .done rfl

/-- Opening a session is the same without the record. -/
theorem echoes_openSession
    (executor : Executor σ S)
    (node : Node)
    (options : RunOptions) :
    Echoes Prod.fst (Except.map Tracked.session) (executor.recording.openSession node options)
      (executor.openSession node options) := by
  unfold openSession
  cases node.primaryAddress with
  | none => exact .done rfl
  | some address =>
    simp only [awaitSocket_recording]
    apply (Echoes.focus _).bind
    intro isOpen
    cases isOpen with
    | false => exact .done rfl
    | true =>
      cases options.credentialsFor node with
      | none => exact .done rfl
      | some login => exact echoes_logIn executor.transport node.id _ login

theorem echoes_executeIn
    (transport : Transport σ S)
    (node : NodeId)
    (command : String)
    (tracked : Tracked S) :
    Echoes Prod.fst (Prod.map id Tracked.session)
      (executeIn transport.recording node command tracked)
      (executeIn transport node command tracked.session) := by
  apply (echoes_execute transport tracked command).bind
  rintro ⟨answer, session⟩
  cases answer <;> exact .done rfl

/-- An upload and its run are the same without the record. -/
theorem echoes_uploadAndRun
    (executor : Executor σ S)
    (node : NodeId)
    (script : String)
    (tracked : Tracked S) :
    Echoes Prod.fst (Prod.map id Tracked.session)
      (executor.recording.uploadAndRun node script tracked)
      (executor.uploadAndRun node script tracked.session) := by
  apply (Echoes.focus _).bind
  intro token
  apply (Echoes.focus _).bind
  intro limit
  apply (echoes_executeIn executor.transport node _ tracked).bind
  rintro ⟨result, session⟩
  cases result with
  | error failure => exact .done rfl
  | ok upload =>
    show Echoes _ _ (if upload.exitStatus = some 0 then _ else _)
      (if upload.exitStatus = some 0 then _ else _)
    split
    · exact echoes_executeIn executor.transport node _ session
    · exact .done rfl

/-- A session is opened and released on record as it is without, whatever is done on it. -/
theorem echoes_withSession
    (executor : Executor σ S)
    (node : Node)
    (options : RunOptions)
    {recorded : Tracked S → Activity (σ × SessionRecord)
      (Except ScriptFailure Response × Tracked S)}
    {work : S → Activity σ (Except ScriptFailure Response × S)}
    (echoes : ∀ tracked, Echoes Prod.fst (Prod.map id Tracked.session) (recorded tracked)
      (work tracked.session)) :
    Echoes Prod.fst id (executor.recording.withSession node options recorded)
      (executor.withSession node options work) := by
  apply (echoes_openSession executor node options).bind
  rintro (failure | tracked)
  · exact .done rfl
  · apply (echoes tracked).bind
    rintro ⟨result, session⟩
    apply (echoes_disconnect executor.transport session).bind
    intro _
    exact .done rfl

section Runs

variable (executor : Executor σ S) (node : Node)

theorem echoes_runScript
    (script : String)
    (options : RunOptions) :
    Echoes Prod.fst id (executor.recording.runScript node script options)
      (executor.runScript node script options) :=
  echoes_withSession executor node options (echoes_uploadAndRun executor node.id script)

theorem echoes_runCommand
    (command : String)
    (options : RunOptions) :
    Echoes Prod.fst id (executor.recording.runCommand node command options)
      (executor.runCommand node command options) :=
  echoes_withSession executor node options (echoes_executeIn executor.transport node.id command)

/-- A run on record is the run itself. -/
theorem shadows_runScript
    (script : String)
    (options : RunOptions) :
    Shadows (executor.recording.runScript node script options)
      (executor.runScript node script options) id :=
  (echoes_runScript executor node script options).shadows

theorem shadows_runCommand
    (command : String)
    (options : RunOptions) :
    Shadows (executor.recording.runCommand node command options)
      (executor.runCommand node command options) id :=
  (echoes_runCommand executor node command options).shadows

theorem echoes_runScriptOnAll
    (nodes : List Node)
    (script : String)
    (options : RunOptions) :
    Echoes Prod.fst id (executor.recording.runScriptOnAll nodes script options)
      (executor.runScriptOnAll nodes script options) := by
  have each : ∀ node, Echoes Prod.fst id
      ((executor.recording.runScript node script options).bind fun result =>
        .done (node.id, result))
      ((executor.runScript node script options).bind fun result => .done (node.id, result)) :=
    fun node => (echoes_runScript executor node script options).bind fun _ => .done rfl
  exact (Echoes.gathered each nodes).bind fun results =>
    .done (congrArg Table.ofList (List.map_id results).symm)

theorem echoes_verifyOnce
    (command marker : String)
    (options : RunOptions) :
    Echoes Prod.fst id (executor.recording.verifyOnce node command marker options)
      (executor.verifyOnce node command marker options) := by
  apply (echoes_runCommand executor node command options).bind
  rintro (failure | response)
  · exact .done rfl
  · show Echoes _ _ (if response.contains marker = true then _ else _)
      (if response.contains marker = true then _ else _)
    split <;> exact .done rfl

theorem echoes_verify
    (command marker : String)
    (options : RunOptions)
    (policy : AttemptPolicy) :
    Echoes Prod.fst id (executor.recording.verify node command marker options policy)
      (executor.verify node command marker options policy) :=
  AttemptPolicy.echoes_attemptFrom
    (fun _ => echoes_verifyOnce executor node command marker options) policy.backoff

end Runs

end Executor

end Fleet
