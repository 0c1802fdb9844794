import Fleet.Proofs.Activity.Instant
import Fleet.Proofs.Session.Wording
import Fleet.Rehearsal.Runner
import Fleet.Results

/-!
# Dialogues with a session

A session through the local client is called in any order: it is connected, runs commands and is
released, again and again. An exchange is one such call with its answer, and there are five kinds of
them. A dialogue is a sequence of exchanges, and whatever is called on a session is one. From it can
be read when the session is connected at the end, which processes were run, and that these took the
prepared outputs in their order.
-/

namespace Fleet

/-- A call on a session. -/
inductive SessionCall where
  | connect
  | execute (command : String)
  | disconnect
  deriving DecidableEq, Repr

/-- What a call is answered with. -/
inductive SessionAnswer where
  | connected (answer : Except SessionError Unit)
  | executed (answer : Except SessionError Response)
  | released
  deriving DecidableEq

/-- Calls, each with its answer. -/
abbrev Transcript := List (SessionCall × SessionAnswer)

namespace Transport

variable {σ S : Type}

/-- Make a call on a session. -/
def perform (transport : Transport σ S) (session : S) :
    SessionCall → Activity σ (SessionAnswer × S)
  | .connect => do
    let (answer, session) ← transport.connect session
    pure (.connected answer, session)
  | .execute command => do
    let (answer, session) ← transport.execute session command
    pure (.executed answer, session)
  | .disconnect => do
    let session ← transport.disconnect session
    pure (.released, session)

/-- Make calls on a session, one after the other. -/
def performAll (transport : Transport σ S) (session : S) :
    List SessionCall → Activity σ (Transcript × S)
  | [] => pure ([], session)
  | call :: later => do
    let (answer, session) ← transport.perform session call
    let (transcript, session) ← transport.performAll session later
    pure ((call, answer) :: transcript, session)

end Transport

namespace Rehearsal

/-- A process is run and takes the next prepared output; when none is left it cannot be started. -/
inductive Programs.Runs (invocation : Invocation) :
    Programs → Except SessionError ProcessOutput → Programs → Prop where
  | next (output : ProcessOutput) (rest : List ProcessOutput) (made : List Invocation) :
    Runs invocation ⟨output :: rest, made⟩ (.ok output) ⟨rest, made ++ [invocation]⟩
  | exhausted (made : List Invocation) :
    Runs invocation ⟨[], made⟩
      (.error (.spawn invocation.program "no scripted response available"))
      ⟨[], made ++ [invocation]⟩

theorem Programs.runs_call
    (invocation : Invocation)
    (programs : Programs) :
    Runs invocation programs (programs.call invocation).1 (programs.call invocation).2 := by
  obtain ⟨outputs, made⟩ := programs
  cases outputs with
  | nil => exact .exhausted made
  | cons output rest => exact .next output rest made

section Runs

variable {invocation : Invocation} {before after : Programs}
  {result : Except SessionError ProcessOutput}

theorem Programs.Runs.invocations (runs : before.Runs invocation result after) :
    after.invocations = before.invocations ++ [invocation] := by
  cases runs <;> rfl

theorem Programs.Runs.outputs (runs : before.Runs invocation result after) :
    after.outputs = before.outputs.drop 1 := by
  cases runs <;> rfl

end Runs

end Rehearsal

namespace ClientSession

open Rehearsal (Programs runner)

variable {σ : Type}

/-- A session for an endpoint and a login, connected or not. -/
def standing (endpoint : Endpoint) (login : Credentials) (connected : Bool) : ClientSession :=
  { endpoint := endpoint
    credentials := login
    stagedKey := if connected then some (keyFileText login.key) else none }

/-- The call of the client for a command. -/
def invocation
    (settings : ClientSettings)
    (keyPath : String)
    (endpoint : Endpoint)
    (login : Credentials)
    (command : String) :
    Invocation :=
  { program := settings.program
    arguments := arguments settings keyPath (standing endpoint login true) command
    key := keyFileText login.key }

/-! ## Verdicts -/

/-- What comes of a process that was to run: it could not be started, or its output is that of the
remote command, or it tells of a rejected login, or of a failed connection. -/
inductive Verdict (endpoint : Endpoint) (login : Credentials) :
    Except SessionError ProcessOutput → Except SessionError Response → Prop where
  | unstarted (error : SessionError) : Verdict endpoint login (.error error) (.error error)
  | verbatim {result : ProcessOutput} (remote : result.code ≠ some 255) :
    Verdict endpoint login (.ok result)
      (.ok { output := result.output, error := result.error, exitStatus := result.code })
  | rejected {result : ProcessOutput} (own : result.code = some 255) {marker : String}
      (known : marker ∈ SessionError.rejectionMarkers)
      (told : marker.toList <:+: (Text.trim result.error).toList) :
    Verdict endpoint login (.ok result)
      (.error (.auth login.account endpoint.toText (Text.trim result.error)))
  | unreachable {result : ProcessOutput} (own : result.code = some 255)
      (untold : ∀ marker ∈ SessionError.rejectionMarkers,
        ¬ marker.toList <:+: (Text.trim result.error).toList) :
    Verdict endpoint login (.ok result)
      (.error (.connect endpoint.toText (Text.trim result.error)))

/-- What a finished process is classified as is what comes of it. -/
theorem verdict_classify
    (endpoint : Endpoint)
    (login : Credentials)
    (connected : Bool)
    (result : ProcessOutput) :
    Verdict endpoint login (.ok result)
      (classify (standing endpoint login connected) result) := by
  unfold classify
  split
  case isFalse remote => exact .verbatim remote
  case isTrue own =>
    dsimp only [standing]
    split
    case isTrue told =>
      obtain ⟨marker, known, inside⟩ := (SessionError.reportsRejection_iff _).1 told
      exact .rejected own known inside
    case isFalse untold =>
      refine .unreachable own fun marker known inside => untold ?_
      exact (SessionError.reportsRejection_iff _).2 ⟨marker, known, inside⟩

/-- Nothing is judged about a process that could not be started. -/
theorem verdict_bind_classify
    (endpoint : Endpoint)
    (login : Credentials)
    (connected : Bool)
    (result : Except SessionError ProcessOutput) :
    Verdict endpoint login result (result.bind (standing endpoint login connected).classify) := by
  cases result with
  | ok result => exact verdict_classify endpoint login connected result
  | error error => exact .unstarted error

/-! ## Exchanges -/

/-- A call with its answer, between the standing of the session and the prepared outputs before it
and after it. -/
inductive Exchange (settings : ClientSettings) (keyPath : String) (endpoint : Endpoint)
    (login : Credentials) :
    Bool → Programs → SessionCall → SessionAnswer → Bool → Programs → Prop where
  /-- No process is run. -/
  | released (connected : Bool) (programs : Programs) :
    Exchange settings keyPath endpoint login connected programs .disconnect .released false programs
  /-- No process is run for a session that is not connected. -/
  | refused (programs : Programs) (command : String) :
    Exchange settings keyPath endpoint login false programs (.execute command)
      (.executed (.error (.notConnected endpoint.toText))) false programs
  /-- One process is run, and the session stays connected whatever comes of it. -/
  | executed {before after : Programs} {command : String}
      {result : Except SessionError ProcessOutput} {answer : Except SessionError Response}
      (runs : before.Runs (invocation settings keyPath endpoint login command) result after)
      (verdict : Verdict endpoint login result answer) :
    Exchange settings keyPath endpoint login true before (.execute command) (.executed answer)
      true after
  /-- One process is run, whether the session was connected before or not. -/
  | connected {already : Bool} {before after : Programs}
      {result : Except SessionError ProcessOutput} {response : Response}
      (runs : before.Runs (invocation settings keyPath endpoint login "true") result after)
      (verdict : Verdict endpoint login result (.ok response)) :
    Exchange settings keyPath endpoint login already before .connect (.connected (.ok ()))
      true after
  /-- One process is run, and afterwards the session is not connected, even if it was before. -/
  | failed {already : Bool} {before after : Programs}
      {result : Except SessionError ProcessOutput} {error : SessionError}
      (runs : before.Runs (invocation settings keyPath endpoint login "true") result after)
      (verdict : Verdict endpoint login result (.error error)) :
    Exchange settings keyPath endpoint login already before .connect (.connected (.error error))
      false after

section Calls

variable (settings : ClientSettings) (keyPath : String) (endpoint : Endpoint) (login : Credentials)
  {place : Part σ Programs} (lawful : place.Lawful)

/-- A process takes no time. -/
theorem run_runner
    (invocation : Invocation)
    (now : Nat)
    (whole : σ) :
    (runner place invocation).run now whole =
      some (((place.view whole).call invocation).1, now,
        place.update ((place.view whole).call invocation).2 whole) := rfl

/-- A connected session runs the client, and judges its output. -/
theorem call_standing (command : String) :
    call settings keyPath (runner place) (standing endpoint login true) command =
      (runner place (invocation settings keyPath endpoint login command)).bind fun result =>
        .done (result.bind (standing endpoint login true).classify) :=
  congrArg (Activity.bind _) (funext fun result => by cases result <;> rfl)

/-- Connecting runs a command, with the key staged, and its outcome decides the standing. -/
theorem connect_standing (connected : Bool) :
    connect settings keyPath (runner place) (standing endpoint login connected) =
      (call settings keyPath (runner place) (standing endpoint login true) "true").bind
        fun answer => .done (answer.map fun _ => (), standing endpoint login answer.isOk) := by
  cases connected <;>
    exact congrArg (Activity.bind _) (funext fun answer => by cases answer <;> rfl)

include lawful

/-- A connected session runs one process for a command. -/
theorem run_call
    (command : String)
    (now : Nat)
    (whole : σ) :
    ∃ result answer reached,
      (call settings keyPath (runner place) (standing endpoint login true) command).run now whole =
        some (answer, now, reached) ∧
      (place.view whole).Runs (invocation settings keyPath endpoint login command) result
        (place.view reached) ∧
      Verdict endpoint login result answer := by
  have runs := Programs.runs_call (invocation settings keyPath endpoint login command)
    (place.view whole)
  rw [← lawful.view_update ((place.view whole).call _).2 whole] at runs
  refine ⟨_, _, _, ?_, runs, verdict_bind_classify endpoint login true _⟩
  rw [call_standing, Activity.run_bind, run_runner]
  rfl

/-- Whatever is called on a session is an exchange, and it takes no time. -/
theorem exchange_of_perform
    (connected : Bool)
    (call : SessionCall)
    (now : Nat)
    (whole : σ) :
    ∃ answer standingAfter reached,
      ((transport settings keyPath (runner place)).perform (standing endpoint login connected)
          call).run now whole =
        some ((answer, standing endpoint login standingAfter), now, reached) ∧
      Exchange settings keyPath endpoint login connected (place.view whole) call answer
        standingAfter (place.view reached) := by
  cases call with
  | connect =>
    obtain ⟨result, answer, reached, ran, runs, verdict⟩ :=
      run_call settings keyPath endpoint login lawful "true" now whole
    have steps : ((transport settings keyPath (runner place)).perform
        (standing endpoint login connected) .connect).run now whole =
          some ((.connected (answer.map fun _ => ()), standing endpoint login answer.isOk), now,
            reached) := by
      simp only [Transport.perform, transport, connect_standing, Activity.bind_eq_bind,
        Activity.pure_eq_done, Activity.run_bind, ran, Option.bind_some, Activity.run_done]
    cases answer with
    | ok response => exact ⟨_, true, reached, steps, .connected runs verdict⟩
    | error error => exact ⟨_, false, reached, steps, .failed runs verdict⟩
  | execute command =>
    cases connected with
    | false => exact ⟨_, _, _, rfl, .refused _ command⟩
    | true =>
      obtain ⟨result, answer, reached, ran, runs, verdict⟩ :=
        run_call settings keyPath endpoint login lawful command now whole
      refine ⟨_, true, reached, ?_, .executed runs verdict⟩
      simp only [Transport.perform, transport, Activity.bind_eq_bind, Activity.pure_eq_done,
        Activity.run_bind, ran, Option.bind_some, Activity.run_done]
  | disconnect => exact ⟨_, false, _, rfl, .released connected _⟩

end Calls

/-! ## Dialogues -/

/-- A sequence of exchanges, each from where the one before it has ended. -/
inductive Dialogue (settings : ClientSettings) (keyPath : String) (endpoint : Endpoint)
    (login : Credentials) : Bool → Programs → Transcript → Bool → Programs → Prop where
  | nil (connected : Bool) (programs : Programs) :
    Dialogue settings keyPath endpoint login connected programs [] connected programs
  | cons {start middle final : Bool} {before between after : Programs} {call : SessionCall}
      {answer : SessionAnswer} {transcript : Transcript}
      (first : Exchange settings keyPath endpoint login start before call answer middle between)
      (later : Dialogue settings keyPath endpoint login middle between transcript final after) :
    Dialogue settings keyPath endpoint login start before ((call, answer) :: transcript) final after

/-- Whatever is called on a session, connected or not, is a dialogue. -/
theorem dialogue_of_performAll
    (settings : ClientSettings)
    (keyPath : String)
    (endpoint : Endpoint)
    (login : Credentials)
    {place : Part σ Programs}
    (lawful : place.Lawful)
    (start : Bool)
    (calls : List SessionCall)
    (now : Nat)
    (whole : σ) :
    ∃ transcript connected reached,
      ((transport settings keyPath (runner place)).performAll (standing endpoint login start)
          calls).run now whole =
        some ((transcript, standing endpoint login connected), now, reached) ∧
      transcript.map Prod.fst = calls ∧
      Dialogue settings keyPath endpoint login start (place.view whole) transcript connected
        (place.view reached) := by
  induction calls generalizing start whole with
  | nil => exact ⟨[], start, whole, rfl, rfl, .nil start _⟩
  | cons call later inductionHypothesis =>
    obtain ⟨answer, middle, between, firstRan, first⟩ :=
      exchange_of_perform settings keyPath endpoint login lawful start call now whole
    obtain ⟨transcript, connected, reached, ran, asked, dialogue⟩ :=
      inductionHypothesis middle between
    refine ⟨(call, answer) :: transcript, connected, reached, ?_, ?_, .cons first dialogue⟩
    · simp only [Transport.performAll, Activity.bind_eq_bind, Activity.pure_eq_done,
        Activity.run_bind, firstRan, ran, Option.bind_some, Activity.run_done]
    · rw [List.map_cons, asked]

section Standing

variable {settings : ClientSettings} {keyPath : String} {endpoint : Endpoint} {login : Credentials}
  {start final : Bool} {before after : Programs} {transcript : Transcript}

/-- The session was neither connected nor released. -/
def Undisturbed (transcript : Transcript) : Prop :=
  ∀ entry ∈ transcript, entry.1 ≠ .connect ∧ entry.1 ≠ .disconnect

/-- The last call that connects was a success, and the session was not released afterwards. -/
def EndsConnected (transcript : Transcript) : Prop :=
  ∃ earlier later, transcript = earlier ++ (.connect, .connected (.ok ())) :: later ∧
    Undisturbed later

@[simp]
theorem undisturbed_cons
    (entry : SessionCall × SessionAnswer)
    (transcript : Transcript) :
    Undisturbed (entry :: transcript) ↔
      (entry.1 ≠ .connect ∧ entry.1 ≠ .disconnect) ∧ Undisturbed transcript := by
  simp only [Undisturbed, List.forall_mem_cons]

theorem not_endsConnected_nil : ¬ EndsConnected [] := by
  rintro ⟨earlier, later, same, _⟩
  simp at same

/-- A session ends connected when it does so by its later calls, or when its first call connects it
and nothing disturbs it afterwards. -/
theorem endsConnected_cons
    (entry : SessionCall × SessionAnswer)
    (transcript : Transcript) :
    EndsConnected (entry :: transcript) ↔
      EndsConnected transcript ∨
        (entry = (.connect, .connected (.ok ())) ∧ Undisturbed transcript) := by
  constructor
  · rintro ⟨earlier, later, same, quiet⟩
    cases earlier with
    | nil =>
      obtain ⟨rfl, rfl⟩ := List.cons.inj same
      exact .inr ⟨rfl, quiet⟩
    | cons other earlier =>
      obtain ⟨rfl, rfl⟩ := List.cons.inj same
      exact .inl ⟨earlier, later, rfl, quiet⟩
  · rintro (⟨earlier, later, rfl, quiet⟩ | ⟨rfl, quiet⟩)
    · exact ⟨entry :: earlier, later, rfl, quiet⟩
    · exact ⟨[], transcript, rfl, quiet⟩

/-- Only connecting and releasing decide whether a session is connected in the end. -/
theorem Dialogue.connected_iff
    (dialogue : Dialogue settings keyPath endpoint login start before transcript final after) :
    final = true ↔ EndsConnected transcript ∨ (start = true ∧ Undisturbed transcript) := by
  induction dialogue with
  | nil connected programs => simp [not_endsConnected_nil, Undisturbed]
  | cons first later inductionHypothesis =>
    rw [inductionHypothesis, endsConnected_cons]
    cases first <;> simp

/-- The command that a call with this answer has had the client run, if any. -/
def commandRun : SessionCall × SessionAnswer → Option String
  | (.connect, _) => some "true"
  | (.execute _, .executed (.error (.notConnected _))) => none
  | (.execute command, _) => some command
  | (.disconnect, _) => none

/-- What comes of a process is never that the session is not connected. -/
theorem Verdict.ne_notConnected
    {invocation : Invocation}
    {result : Except SessionError ProcessOutput}
    {answer : Except SessionError Response}
    (runs : before.Runs invocation result after)
    (verdict : Verdict endpoint login result answer)
    (host : String) :
    answer ≠ .error (.notConnected host) := by
  rintro rfl
  cases verdict with
  | unstarted => cases runs

theorem commandRun_executed
    {command : String}
    {answer : Except SessionError Response}
    (ran : ∀ host, answer ≠ .error (.notConnected host)) :
    commandRun (.execute command, .executed answer) = some command := by
  cases answer with
  | ok response => rfl
  | error error =>
    cases error with
    | notConnected host => exact absurd rfl (ran host)
    | _ => rfl

/-- The processes that an exchange has run are those that its answer speaks of. -/
theorem Exchange.processes
    {call : SessionCall}
    {answer : SessionAnswer}
    (exchange : Exchange settings keyPath endpoint login start before call answer final after) :
    after.invocations = before.invocations ++
        (commandRun (call, answer)).toList.map (invocation settings keyPath endpoint login) ∧
      after.outputs = before.outputs.drop (commandRun (call, answer)).toList.length := by
  cases exchange with
  | released | refused => simp [commandRun]
  | executed runs verdict =>
    rw [commandRun_executed (verdict.ne_notConnected runs)]
    exact ⟨runs.invocations, runs.outputs⟩
  | connected runs verdict | failed runs verdict => exact ⟨runs.invocations, runs.outputs⟩

/-- The processes of a dialogue are run in the order of the calls, one for every call that connects
and every command that is not refused, and they take the prepared outputs from the first one on. -/
theorem Dialogue.processes
    (dialogue : Dialogue settings keyPath endpoint login start before transcript final after) :
    after.invocations = before.invocations ++
        (transcript.filterMap commandRun).map (invocation settings keyPath endpoint login) ∧
      after.outputs = before.outputs.drop (transcript.filterMap commandRun).length := by
  induction dialogue with
  | nil connected programs => simp
  | cons first later inductionHypothesis =>
    obtain ⟨calls, outputs⟩ := inductionHypothesis
    obtain ⟨firstCalls, firstOutputs⟩ := first.processes
    have split : ∀ entry (rest : Transcript), (entry :: rest).filterMap commandRun =
        (commandRun entry).toList ++ rest.filterMap commandRun := by
      intro entry rest
      cases ran : commandRun entry <;> simp [ran]
    rw [calls, outputs, firstCalls, firstOutputs, split, List.map_append, List.append_assoc,
      List.length_append, List.drop_drop]
    exact ⟨rfl, rfl⟩

end Standing

/-- Whatever is called on a new session is a dialogue. It takes no time, and what it answers tells
whether the session is connected in the end and which processes were run. -/
theorem dialogue_of_calls
    (settings : ClientSettings)
    (keyPath : String)
    (endpoint : Endpoint)
    (login : Credentials)
    {place : Part σ Programs}
    (lawful : place.Lawful)
    (calls : List SessionCall)
    (now : Nat)
    (whole : σ) :
    ∃ transcript connected reached,
      ((transport settings keyPath (runner place)).performAll
          ((transport settings keyPath (runner place)).create endpoint login) calls).run now whole =
        some ((transcript, standing endpoint login connected), now, reached) ∧
      transcript.map Prod.fst = calls ∧
      Dialogue settings keyPath endpoint login false (place.view whole) transcript connected
        (place.view reached) ∧
      (connected = true ↔ EndsConnected transcript) ∧
      (place.view reached).invocations = (place.view whole).invocations ++
        (transcript.filterMap commandRun).map (invocation settings keyPath endpoint login) ∧
      (place.view reached).outputs =
        (place.view whole).outputs.drop (transcript.filterMap commandRun).length := by
  obtain ⟨transcript, connected, reached, ran, asked, dialogue⟩ :=
    dialogue_of_performAll settings keyPath endpoint login lawful false calls now whole
  exact ⟨transcript, connected, reached, ran, asked, dialogue,
    by simpa using dialogue.connected_iff, dialogue.processes⟩

/-- A rejected login, a command that is refused, a login, a command that fails with the remote
side's own code, and one for which no output is left: the session stays connected. -/
theorem dialogue_of_calls_rejected_first :
    ∃ transcript,
      transcript.map Prod.fst =
        [SessionCall.connect, .execute "ls", .connect, .execute "ls", .execute "df"] ∧
      transcript.map Prod.snd =
        [.connected (.error (.auth "root" "10.0.0.7:22" "Permission denied (publickey).")),
          .executed (.error (.notConnected "10.0.0.7:22")),
          .connected (.ok ()),
          .executed (.ok { output := "a\n", error := "b: missing\n", exitStatus := some 2 }),
          .executed (.error (.spawn "ssh" "no scripted response available"))] ∧
      EndsConnected transcript := by
  let endpoint : Endpoint := { address := .v4 10 0 0 7, port := 22 }
  obtain ⟨transcript, connected, reached, ran, asked, -, live, -⟩ :=
    dialogue_of_calls {} "/tmp/key" endpoint ⟨"root", "k"⟩ (Part.lawful_self Programs)
      [.connect, .execute "ls", .connect, .execute "ls", .execute "df"] 0
      { outputs :=
          [{ code := some 255, error := " Permission denied (publickey).\r\n" }, {},
            { code := some 2, output := "a\n", error := "b: missing\n" }] }
  have answered := congrArg (Option.map fun ended => ended.1.1.map Prod.snd) ran
  have held := congrArg (Option.map fun ended => ended.1.2.stagedKey.isSome) ran
  refine ⟨transcript, asked, ?_, live.1 ?_⟩
  · refine Option.some.inj (answered.symm.trans ?_)
    decide +kernel
  · cases connected with
    | true => rfl
    | false =>
      refine absurd (Option.some.inj (held.symm.trans ?_)) Bool.false_ne_true
      decide +kernel

end ClientSession

end Fleet
