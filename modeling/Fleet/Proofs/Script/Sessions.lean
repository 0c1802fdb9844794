import Fleet.Proofs.Activity.Safety
import Fleet.Proofs.Script.Recorded

/-!
# Sessions of a script run

Whatever the port, the sessions and the node do, a run of a script uses at most one session, in one
of few courses. `Course` lists them all, with the result of each: the ways of not making a session
at all, a failed login, a failed or rejected upload, and a script that was run. A course that makes
a session ends with its release. A run that hangs, or is cut off, is on its way along a course, and
it hangs in none but the calls that it makes.

The statements are about the executor that keeps a record. Without the record it does what the
executor under it does.
-/

namespace Fleet

variable {σ S : Type}

namespace SessionRecord

/-- A session is made, and its login is answered. -/
def opening
    (endpoint : Endpoint)
    (login : Credentials)
    (answer : Except SessionError Unit) :
    SessionRecord :=
  [.created endpoint login, .connecting, .connected answer]

/-- A command on a session is answered. -/
def exchange (command : String) (answer : Except SessionError Response) : SessionRecord :=
  [.executing command, .executed answer]

theorem executing_prefix_exchange
    (past : SessionRecord)
    (command : String)
    (answer : Except SessionError Response) :
    past ++ [.executing command] <+: past ++ exchange command answer :=
  ⟨[.executed answer], by simp [exchange]⟩

/-! ## Safe records -/

section Safe

variable {α : Type} {safe : SessionRecord → Prop} {past : SessionRecord} {now : Nat} {state : σ}

theorem keeps_note
    {events : SessionRecord}
    (safely : safe (past ++ events)) :
    (note events).Keeps (fun whole : σ × SessionRecord => safe whole.2)
      (fun _ _ whole => whole.2 = past ++ events) now (state, past) :=
  Activity.keeps_modify safely rfl

/-- A call on record is safe when the record is safe before it and with each of its answers. -/
theorem keeps_around
    {before : SessionRecord}
    {call : Activity σ (α × S)}
    {after : α → SessionRecord}
    (asked : safe (past ++ before))
    (answered : ∀ answer, safe (past ++ (before ++ after answer))) :
    (around before call after).Keeps (fun whole => safe whole.2)
      (fun ending _ whole =>
        ending.2.unrecorded = [] ∧ whole.2 = past ++ (before ++ after ending.1))
      now (state, past) := by
  simp only [← List.append_assoc] at answered ⊢
  apply (keeps_note asked).bind
  rintro - start ⟨inner, record⟩ (rfl : record = past ++ before)
  apply (Activity.keeps_focus_first fun _ => asked).bind
  rintro ⟨answer, session⟩ later ⟨reached, record⟩ ⟨rfl, -⟩
  apply (keeps_note (answered answer)).bind
  rintro - ended whole noted
  exact ⟨rfl, noted⟩

/-- A release is the next entry of the record. -/
theorem keeps_disconnect
    {transport : Transport σ S}
    {tracked : Tracked S}
    (recorded : tracked.unrecorded = [])
    (released : safe (past ++ [.disconnecting])) :
    (discard (transport.recording.disconnect tracked)).Keeps (fun whole => safe whole.2)
      (fun _ _ whole => whole.2 = past ++ [.disconnecting]) now (state, past) := by
  have noted : (note (tracked.unrecorded ++ [.disconnecting])).Keeps
      (fun whole : σ × SessionRecord => safe whole.2)
      (fun _ _ whole => whole.2 = past ++ [.disconnecting]) now (state, past) := by
    rw [recorded]
    exact keeps_note released
  have disconnected : (transport.recording.disconnect tracked).Keeps (fun whole => safe whole.2)
      (fun _ _ whole => whole.2 = past ++ [.disconnecting]) now (state, past) := by
    apply noted.bind
    rintro - start ⟨inner, record⟩ (rfl : record = past ++ [SessionEvent.disconnecting])
    apply (Activity.keeps_focus_first fun _ => released).bind
    rintro session later whole ⟨kept, -⟩
    exact kept
  exact disconnected.bind fun _ _ _ ended => ended

/-- A command leaves itself and its answer on record. -/
theorem keeps_executeIn
    {transport : Transport σ S}
    {node : NodeId}
    {command : String}
    {tracked : Tracked S}
    (recorded : tracked.unrecorded = [])
    (asked : safe (past ++ [.executing command]))
    (answered : ∀ answer, safe (past ++ exchange command answer)) :
    (Executor.executeIn transport.recording node command tracked).Keeps (fun whole => safe whole.2)
      (fun ending _ whole => ending.2.unrecorded = [] ∧ ∃ answer,
        whole.2 = past ++ exchange command answer ∧
          ending.1 = answer.mapError (.ofSession node .executing))
      now (state, past) := by
  rcases tracked with ⟨session, unrecorded⟩
  rcases (recorded : unrecorded = []) with rfl
  apply Activity.Keeps.bind (keeps_around asked answered)
  rintro ⟨answer, session⟩ later ⟨inner, record⟩ ⟨settled, rfl⟩
  cases answer with
  | ok response => exact ⟨settled, .ok response, rfl, rfl⟩
  | error error => exact ⟨settled, .error error, rfl, rfl⟩

end Safe

end SessionRecord

namespace Executor

open SessionRecord

/-! ## Courses of a run -/

/-- The endpoint at which a run logs in. -/
def loginEndpoint (node : Node) (options : RunOptions) : Option Endpoint :=
  node.primaryAddress.map fun address => { address := address, port := options.port }

theorem loginEndpoint_of_primaryAddress
    {node : Node}
    {address : Address}
    (addressed : node.primaryAddress = some address)
    (options : RunOptions) :
    loginEndpoint node options = some { address := address, port := options.port } := by
  rw [loginEndpoint, addressed]
  rfl

/-- A node has an address, and the wait for its login port ends with an answer. -/
structure Waits (executor : Executor σ S) (node : Node) (options : RunOptions) (now : Nat)
    (state : σ) (endpoint : Endpoint) (isOpen : Bool) : Prop where
  addressed : loginEndpoint node options = some endpoint
  answered : ∃ later reached,
    (awaitSocket executor.probe options.socketWait endpoint).run now state =
      some (isOpen, later, reached)

/-- A session can be made: the login port opens in time, and a complete login results. -/
structure Opens (executor : Executor σ S) (node : Node) (options : RunOptions) (now : Nat)
    (state : σ) (endpoint : Endpoint) (login : Credentials) : Prop where
  waits : executor.Waits node options now state endpoint true
  known : options.credentialsFor node = some login

/-- The courses of a script run: what is done on sessions, and the result. The upload and the run
command share one path, and its token and the delimiter's are arbitrary. -/
inductive Course (executor : Executor σ S) (node : Node) (script : String) (options : RunOptions)
    (now : Nat) (state : σ) : SessionRecord → Except ScriptFailure Response → Prop where
  | unreachable (unaddressed : node.primaryAddress = none) :
    Course executor node script options now state [] (.error (.noAddress node.id))
  | shut {endpoint : Endpoint} (waits : executor.Waits node options now state endpoint false) :
    Course executor node script options now state [] (.error (.socketTimeout node.id endpoint))
  | keyless {endpoint : Endpoint} (waits : executor.Waits node options now state endpoint true)
      (unknown : options.credentialsFor node = none) :
    Course executor node script options now state [] (.error (.missingCredentials node.id))
  | refused {endpoint : Endpoint} {login : Credentials}
      (opens : executor.Opens node options now state endpoint login) (error : SessionError) :
    Course executor node script options now state
      (opening endpoint login (.error error) ++ [.disconnecting])
      (.error (.ofSession node.id .connecting error))
  | uploadFailed {endpoint : Endpoint} {login : Credentials}
      (opens : executor.Opens node options now state endpoint login) (token limit : String)
      (error : SessionError) :
    Course executor node script options now state
      (opening endpoint login (.ok ()) ++
        exchange (ScriptCommand.upload (ScriptCommand.delimiter limit) (ScriptCommand.path token)
          script) (.error error) ++
        [.disconnecting])
      (.error (.ofSession node.id .executing error))
  | uploadRejected {endpoint : Endpoint} {login : Credentials}
      (opens : executor.Opens node options now state endpoint login) (token limit : String)
      (upload : Response) (rejected : upload.exitStatus ≠ some 0) :
    Course executor node script options now state
      (opening endpoint login (.ok ()) ++
        exchange (ScriptCommand.upload (ScriptCommand.delimiter limit) (ScriptCommand.path token)
          script) (.ok upload) ++
        [.disconnecting])
      (.error (.uploadRejected node.id (ScriptCommand.path token) upload.exitStatus upload.error))
  | ran {endpoint : Endpoint} {login : Credentials}
      (opens : executor.Opens node options now state endpoint login) (token limit : String)
      (upload : Response) (accepted : upload.exitStatus = some 0)
      (answer : Except SessionError Response) :
    Course executor node script options now state
      (opening endpoint login (.ok ()) ++
        exchange (ScriptCommand.upload (ScriptCommand.delimiter limit) (ScriptCommand.path token)
          script) (.ok upload) ++
        exchange (ScriptCommand.run (ScriptCommand.path token)) answer ++
        [.disconnecting])
      (answer.mapError (.ofSession node.id .executing))

/-- What is on record of a run that may be unfinished: nothing, or the beginning of a course. -/
def Underway
    (executor : Executor σ S)
    (node : Node)
    (script : String)
    (options : RunOptions)
    (now : Nat)
    (state : σ)
    (record : SessionRecord) :
    Prop :=
  record = [] ∨
    ∃ full result, executor.Course node script options now state full result ∧ record <+: full

section Course

variable {executor : Executor σ S} {node : Node} {script : String} {options : RunOptions}
  {now : Nat} {state : σ} {endpoint : Endpoint} {login : Credentials}

theorem Underway.of_beginning
    {short long : SessionRecord}
    (underway : executor.Underway node script options now state long)
    (early : short <+: long) :
    executor.Underway node script options now state short := by
  rcases underway with rfl | ⟨full, result, course, later⟩
  · exact Or.inl (List.prefix_nil.1 early)
  · exact Or.inr ⟨full, result, course, early.trans later⟩

theorem Course.underway
    {full : SessionRecord}
    {result : Except ScriptFailure Response}
    (course : executor.Course node script options now state full result) :
    executor.Underway node script options now state full :=
  Or.inr ⟨full, result, course, List.prefix_rfl⟩

/-- Before its release, a session is on its way along the course that ends with the release. -/
theorem Course.underway_unreleased
    {record : SessionRecord}
    {result : Except ScriptFailure Response}
    (course : executor.Course node script options now state (record ++ [.disconnecting]) result) :
    executor.Underway node script options now state record :=
  course.underway.of_beginning (List.prefix_append _ _)

section Opened

variable (opens : executor.Opens node options now state endpoint login)

include opens

theorem underway_opening (answer : Except SessionError Unit) :
    executor.Underway node script options now state (opening endpoint login answer) := by
  cases answer with
  | error error => exact (Course.refused opens error).underway_unreleased
  | ok =>
    exact (Course.uploadFailed opens "" "" (.notConnected "")).underway_unreleased.of_beginning
      (List.prefix_append _ _)

/-- After an upload there is the upload's failure, its rejection, or the script to be run. -/
theorem underway_uploaded
    (token limit : String)
    (answer : Except SessionError Response) :
    executor.Underway node script options now state
      (opening endpoint login (.ok ()) ++
        exchange (ScriptCommand.upload (ScriptCommand.delimiter limit) (ScriptCommand.path token)
          script) answer) := by
  cases answer with
  | error error => exact (Course.uploadFailed opens token limit error).underway_unreleased
  | ok upload =>
    by_cases accepted : upload.exitStatus = some 0
    · exact (Course.ran opens token limit upload accepted
        (.error (.notConnected ""))).underway_unreleased.of_beginning (List.prefix_append _ _)
    · exact (Course.uploadRejected opens token limit upload accepted).underway_unreleased

end Opened

end Course

/-! ## Keeping to a course -/

section Keeping

variable {executor : Executor σ S} {node : Node} {script : String} {options : RunOptions}
  {now : Nat} {state : σ} {endpoint : Endpoint} {login : Credentials}

/-- How opening a session ends: with a session whose record is an answered login, or with a result
at which a course ends. -/
def Entered
    (executor : Executor σ S)
    (node : Node)
    (script : String)
    (options : RunOptions)
    (now : Nat)
    (state : σ)
    (record : SessionRecord) :
    Except ScriptFailure (Tracked S) → Prop
  | .ok tracked =>
    tracked.unrecorded = [] ∧ ∃ endpoint login,
      executor.Opens node options now state endpoint login ∧
        record = opening endpoint login (.ok ())
  | .error failure => executor.Course node script options now state record (.error failure)

/-- The release of a session ends its course. -/
theorem Course.keeps_release
    {record : SessionRecord}
    {result : Except ScriptFailure Response}
    (course : executor.Course node script options now state (record ++ [.disconnecting]) result)
    {tracked : Tracked S}
    (recorded : tracked.unrecorded = [])
    (start : Nat)
    (reached : σ) :
    (discard (executor.recording.transport.disconnect tracked)).Keeps
      (fun whole => executor.Underway node script options now state whole.2)
      (fun _ _ whole => executor.Course node script options now state whole.2 result)
      start (reached, record) := by
  apply (keeps_disconnect recorded course.underway).mono
  rintro - later whole released
  rw [released]
  exact course

/-- While it logs in a run is underway, and then it has entered a session or reached its end. -/
theorem keeps_logIn
    (opens : executor.Opens node options now state endpoint login)
    (start : Nat)
    (reached : σ) :
    (logIn executor.recording.transport node.id endpoint login).Keeps
      (fun whole => executor.Underway node script options now state whole.2)
      (fun result _ whole => executor.Entered node script options now state whole.2 result)
      start (reached, []) := by
  have asked : executor.Underway node script options now state
      ([] ++ [.created endpoint login, .connecting]) :=
    (underway_opening opens (.ok ())).of_beginning (by simp [opening])
  apply Activity.Keeps.bind (keeps_around asked (underway_opening opens))
  rintro ⟨answer, session⟩ later ⟨inner, record⟩ ⟨settled, rfl⟩
  cases answer with
  | ok => exact ⟨settled, endpoint, login, opens, rfl⟩
  | error error =>
    exact ((Course.refused opens error).keeps_release settled later inner).bind
      fun _ _ _ released => released

/-- While it opens a session a run is underway, and then it has entered it or reached its end. -/
theorem keeps_openSession :
    (executor.recording.openSession node options).Keeps
      (fun whole => executor.Underway node script options now state whole.2)
      (fun result _ whole => executor.Entered node script options now state whole.2 result)
      now (state, []) := by
  unfold openSession
  cases addressed : node.primaryAddress with
  | none => exact Course.unreachable addressed
  | some address =>
    simp only [awaitSocket_recording]
    apply (Activity.keeps_focus_first fun _ => Or.inl rfl).bind
    rintro isOpen later ⟨reached, record⟩ ⟨rfl, answered⟩
    have waits : executor.Waits node options now state
        { address := address, port := options.port } isOpen :=
      ⟨loginEndpoint_of_primaryAddress addressed options, later, reached, answered⟩
    cases isOpen with
    | false => exact Course.shut waits
    | true =>
      cases known : options.credentialsFor node with
      | none => exact Course.keyless waits known
      | some login => exact keeps_logIn ⟨waits, known⟩ later reached

/-- The upload and the run complete a course. -/
theorem keeps_uploadAndRun
    (opens : executor.Opens node options now state endpoint login)
    {tracked : Tracked S}
    (recorded : tracked.unrecorded = [])
    (start : Nat)
    (reached : σ) :
    (executor.recording.uploadAndRun node.id script tracked).Keeps
      (fun whole => executor.Underway node script options now state whole.2)
      (fun ending _ whole => ending.2.unrecorded = [] ∧
        executor.Course node script options now state (whole.2 ++ [.disconnecting]) ending.1)
      start (reached, opening endpoint login (.ok ())) := by
  have opened : executor.Underway node script options now state _ :=
    underway_opening opens (.ok ())
  apply (Activity.keeps_focus_first fun _ => opened).bind
  rintro token afterToken ⟨beforeLimit, record⟩ ⟨rfl, -⟩
  apply (Activity.keeps_focus_first fun _ => opened).bind
  rintro limit afterLimit ⟨beforeUpload, record⟩ ⟨rfl, -⟩
  have uploads : ∀ answer, executor.Underway node script options now state _ :=
    underway_uploaded opens token limit
  apply (keeps_executeIn recorded ((uploads (.error (.notConnected ""))).of_beginning
    (executing_prefix_exchange _ _ _)) uploads).bind
  rintro ⟨result, session⟩ uploaded ⟨beforeRun, record⟩ ⟨settled, answer, rfl, rfl⟩
  cases answer with
  | error error => exact ⟨settled, Course.uploadFailed opens token limit error⟩
  | ok upload =>
    show (if upload.exitStatus = some 0 then _ else _ : Activity _ _).Keeps _ _ _ _
    split
    case isTrue accepted =>
      have runs : ∀ answer, executor.Underway node script options now state _ := fun answer =>
        (Course.ran opens token limit upload accepted answer).underway_unreleased
      apply (keeps_executeIn settled ((runs (.error (.notConnected ""))).of_beginning
        (executing_prefix_exchange _ _ _)) runs).mono
      rintro ⟨result, session⟩ later ⟨left, record⟩ ⟨settled, answer, rfl, rfl⟩
      exact ⟨settled, Course.ran opens token limit upload accepted answer⟩
    case isFalse rejected =>
      exact ⟨settled, Course.uploadRejected opens token limit upload rejected⟩

theorem keeps_runScript :
    (executor.recording.runScript node script options).Keeps
      (fun whole => executor.Underway node script options now state whole.2)
      (fun result _ whole => executor.Course node script options now state whole.2 result)
      now (state, []) := by
  apply keeps_openSession.bind
  rintro (failure | tracked) later ⟨reached, record⟩ entered
  · exact entered
  · rcases entered with ⟨recorded, endpoint, login, opens, rfl⟩
    apply (keeps_uploadAndRun opens recorded later reached).bind
    rintro ⟨result, session⟩ ended ⟨left, record⟩ ⟨settled, course⟩
    exact (course.keeps_release settled ended left).bind fun _ _ _ released => released

end Keeping

/-! ## Runs that end -/

/-- The wait for a port ends, and so does everything that is asked of sessions. -/
structure Responsive (executor : Executor σ S) (policy : PollPolicy) : Prop where
  waits : ∀ endpoint, (awaitSocket executor.probe policy endpoint).Ends
  tokens : executor.freshToken.Ends
  connects : ∀ session, (executor.transport.connect session).Ends
  executes : ∀ session command, (executor.transport.execute session command).Ends
  disconnects : ∀ session, (executor.transport.disconnect session).Ends

/-- Everything that is asked of sessions ends. -/
structure Answering (executor : Executor σ S) : Prop where
  tokens : executor.freshToken.Ends
  connects : ∀ session, (executor.transport.connect session).Ends
  executes : ∀ session command, (executor.transport.execute session command).Ends
  disconnects : ∀ session, (executor.transport.disconnect session).Ends

open Activity (ends_done)

namespace Answering

variable {executor : Executor σ S} (answering : executor.Answering)

include answering

theorem release_ends (session : S) :
    (discard (executor.transport.disconnect session)).Ends :=
  (answering.disconnects session).bind fun _ => ends_done _

theorem executeIn_ends
    (node : NodeId)
    (command : String)
    (session : S) :
    (executeIn executor.transport node command session).Ends := by
  apply (answering.executes session command).bind
  rintro ⟨answer, session⟩
  cases answer <;> exact ends_done _

/-- The upload and the run come to an end when the calls of the session do. -/
theorem uploadAndRun_ends
    (node : NodeId)
    (script : String)
    (session : S) :
    (executor.uploadAndRun node script session).Ends := by
  apply answering.tokens.bind
  intro token
  apply answering.tokens.bind
  intro limit
  apply (answering.executeIn_ends node _ session).bind
  rintro ⟨result, session⟩
  cases result with
  | error failure => exact ends_done _
  | ok upload =>
    show (if upload.exitStatus = some 0 then _ else _ : Activity _ _).Ends
    split
    · exact answering.executeIn_ends node _ session
    · exact ends_done _

theorem logIn_ends
    (node : NodeId)
    (endpoint : Endpoint)
    (login : Credentials) :
    (logIn executor.transport node endpoint login).Ends := by
  apply (answering.connects _).bind
  rintro ⟨answer, session⟩
  cases answer with
  | ok => exact ends_done _
  | error error => exact (answering.release_ends session).bind fun _ => ends_done _

/-- What takes forever on the way to a session is the wait for the port. -/
theorem run_openSession_eq_none_iff
    (node : Node)
    (options : RunOptions)
    (now : Nat)
    (state : σ) :
    (executor.openSession node options).run now state = none ↔
      ∃ address, node.primaryAddress = some address ∧
        (awaitSocket executor.probe options.socketWait
          { address := address, port := options.port }).run now state = none := by
  unfold openSession
  cases addressed : node.primaryAddress with
  | none => simp
  | some address =>
    simp only [Option.some.injEq, exists_eq_left']
    apply Activity.run_bind_eq_none_iff
    intro isOpen
    cases isOpen with
    | false => exact ends_done _
    | true =>
      cases options.credentialsFor node with
      | none => exact ends_done _
      | some login => exact answering.logIn_ends node.id _ login

/-- A run ends exactly when it gets as far as a session, or fails to get one. -/
theorem run_runScript_eq_none_iff
    (node : Node)
    (script : String)
    (options : RunOptions)
    (now : Nat)
    (state : σ) :
    (executor.runScript node script options).run now state = none ↔
      (executor.openSession node options).run now state = none := by
  apply Activity.run_bind_eq_none_iff
  rintro (failure | session)
  · exact ends_done _
  · apply (answering.uploadAndRun_ends node.id script session).bind
    rintro ⟨result, session⟩
    exact (answering.release_ends session).bind fun _ => ends_done _

end Answering

namespace Responsive

variable {executor : Executor σ S} {options : RunOptions}
  (responsive : executor.Responsive options.socketWait)

include responsive

theorem answering : executor.Answering :=
  ⟨responsive.tokens, responsive.connects, responsive.executes, responsive.disconnects⟩

/-- A run hangs in none but the calls that it makes. -/
theorem runScript_ends
    (node : Node)
    (script : String) :
    (executor.runScript node script options).Ends := by
  intro now state
  apply Option.ne_none_iff_exists'.1
  rw [Ne, responsive.answering.run_runScript_eq_none_iff,
    responsive.answering.run_openSession_eq_none_iff]
  rintro ⟨address, -, hangs⟩
  obtain ⟨ending, waited⟩ :=
    responsive.waits { address := address, port := options.port } now state
  exact Option.some_ne_none ending (waited.symm.trans hangs)

end Responsive

/-! ## Runs without a session -/

/-- Where no session can be made, the sessions that a transport would make do not matter. -/
theorem run_runScript_unopened
    {executor : Executor σ S}
    {node : Node}
    {options : RunOptions}
    {now : Nat}
    {state : σ}
    (unopened : ∀ endpoint login, ¬executor.Opens node options now state endpoint login)
    (script : String)
    {T : Type}
    (other : Transport σ T) :
    ((Executor.mk other executor.probe executor.freshToken).runScript node script options).run now
      state = (executor.runScript node script options).run now state := by
  simp only [runScript, withSession, openSession, Activity.bind_eq_bind, Activity.run_bind]
  cases addressed : node.primaryAddress with
  | none => rfl
  | some address =>
    simp only [Activity.run_bind]
    cases answered : (awaitSocket executor.probe options.socketWait
        { address := address, port := options.port }).run now state with
    | none => rfl
    | some ending =>
      rcases ending with ⟨isOpen, later, reached⟩
      cases isOpen with
      | false => rfl
      | true =>
        cases known : options.credentialsFor node with
        | none => rfl
        | some login =>
          have waits : executor.Waits node options now state
              { address := address, port := options.port } true :=
            ⟨loginEndpoint_of_primaryAddress addressed options, later, reached, answered⟩
          exact absurd ⟨waits, known⟩ (unopened _ login)

/-- A run of a script, whatever the port, the sessions and the node do. With a record it does what
it does without, and it ends when everything that it waits for does. The record of a run that ends
is that of a course with its result, and the record of a run that is cut off, however early, is the
beginning of one. A session is made only where the port opens in time and a complete login
results. -/
theorem runScript_keeps_to_course
    (executor : Executor σ S)
    (node : Node)
    (script : String)
    (options : RunOptions)
    (now : Nat)
    (state : σ) :
    ((executor.recording.runScript node script options).run now (state, [])).map
        (fun (result, later, reached, _) => (result, later, reached)) =
      (executor.runScript node script options).run now state ∧
    (executor.Responsive options.socketWait →
      ∃ ending, (executor.runScript node script options).run now state = some ending) ∧
    (∀ result later reached record,
      (executor.recording.runScript node script options).run now (state, []) =
        some (result, later, reached, record) →
      executor.Course node script options now state record result) ∧
    (∀ deadline answer later reached record,
      ((executor.recording.runScript node script options).before deadline).run now (state, []) =
        some (answer, later, reached, record) →
      executor.Underway node script options now state record) ∧
    ((∀ endpoint login, ¬executor.Opens node options now state endpoint login) →
      ∀ (T : Type) (other : Transport σ T),
        ((Executor.mk other executor.probe executor.freshToken).runScript node script options).run
          now state = (executor.runScript node script options).run now state) := by
  refine ⟨shadows_runScript executor node script options now state [], ?_, ?_, ?_, ?_⟩
  · intro responsive
    exact responsive.runScript_ends node script now state
  · intro result later reached record ended
    exact keeps_runScript.goal_of_run ended
  · intro deadline answer later reached record cut
    exact keeps_runScript.safe_of_run_before (Or.inl rfl) cut
  · intro unopened T other
    exact run_runScript_unopened unopened script other

end Executor

end Fleet
