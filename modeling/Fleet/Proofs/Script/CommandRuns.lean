import Fleet.Proofs.Script.Sessions

/-!
# Sessions of a command run

A run of a command as it is uses at most one session, as a run of a script does, and in fewer
courses: no session is made, or its login fails, or the command is given to it. A course that makes
a session ends with its release. Whatever is on record before a run stays there, and the run that
ends has put one whole course behind it.
-/

namespace Fleet

variable {σ S : Type}

namespace Executor

open SessionRecord

/-- The courses of a command run: what is done on sessions, and the result. -/
inductive CommandCourse (executor : Executor σ S) (node : Node) (command : String)
    (options : RunOptions) (now : Nat) (state : σ) :
    SessionRecord → Except ScriptFailure Response → Prop where
  | unreachable (unaddressed : node.primaryAddress = none) :
    CommandCourse executor node command options now state [] (.error (.noAddress node.id))
  | shut {endpoint : Endpoint} (waits : executor.Waits node options now state endpoint false) :
    CommandCourse executor node command options now state []
      (.error (.socketTimeout node.id endpoint))
  | keyless {endpoint : Endpoint} (waits : executor.Waits node options now state endpoint true)
      (unknown : options.credentialsFor node = none) :
    CommandCourse executor node command options now state [] (.error (.missingCredentials node.id))
  | refused {endpoint : Endpoint} {login : Credentials}
      (opens : executor.Opens node options now state endpoint login) (error : SessionError) :
    CommandCourse executor node command options now state
      (opening endpoint login (.error error) ++ [.disconnecting])
      (.error (.ofSession node.id .connecting error))
  | ran {endpoint : Endpoint} {login : Credentials}
      (opens : executor.Opens node options now state endpoint login)
      (answer : Except SessionError Response) :
    CommandCourse executor node command options now state
      (opening endpoint login (.ok ()) ++ exchange command answer ++ [.disconnecting])
      (answer.mapError (.ofSession node.id .executing))

section Keeping

variable {executor : Executor σ S} {node : Node} {command : String} {options : RunOptions}
  {now : Nat} {state : σ} {past full : SessionRecord}

/-- The last thing that is done on a session is its release. -/
theorem CommandCourse.released
    {result : Except ScriptFailure Response}
    (course : executor.CommandCourse node command options now state full result) :
    full = [] ∨ full.getLast? = some .disconnecting := by
  cases course with
  | unreachable | shut | keyless => exact Or.inl rfl
  | refused | ran => exact Or.inr List.getLast?_concat

/-- How opening a session ends behind a past record: with a session whose login is the last thing on
record, or with the failure of a whole course. -/
def OpenedBehind
    (executor : Executor σ S)
    (node : Node)
    (command : String)
    (options : RunOptions)
    (now : Nat)
    (state : σ)
    (past record : SessionRecord) :
    Except ScriptFailure (Tracked S) → Prop
  | .ok tracked =>
    tracked.unrecorded = [] ∧ ∃ endpoint login,
      executor.Opens node options now state endpoint login ∧
        record = past ++ opening endpoint login (.ok ())
  | .error failure =>
    ∃ full, record = past ++ full ∧
      executor.CommandCourse node command options now state full (.error failure)

section Trusting

variable {safe : SessionRecord → Prop} (trusted : ∀ record, safe record)

include trusted

/-- What logging in puts on a record goes behind what is on it already. -/
theorem keeps_logIn_behind
    {endpoint : Endpoint}
    {login : Credentials}
    (opens : executor.Opens node options now state endpoint login)
    (start : Nat)
    (reached : σ) :
    (logIn executor.recording.transport node.id endpoint login).Keeps (fun whole => safe whole.2)
      (fun result _ whole =>
        executor.OpenedBehind node command options now state past whole.2 result)
      start (reached, past) := by
  have asked : safe (past ++ [.created endpoint login, .connecting]) := trusted _
  have answered : ∀ answer, safe (past ++ opening endpoint login answer) := fun _ => trusted _
  apply Activity.Keeps.bind (keeps_around asked answered)
  rintro ⟨answer, session⟩ later ⟨inner, record⟩ ⟨settled, rfl⟩
  cases answer with
  | ok => exact ⟨settled, endpoint, login, opens, rfl⟩
  | error error =>
    apply (keeps_disconnect settled (trusted _)).bind
    rintro - ended whole released
    exact ⟨_, released.trans (List.append_assoc ..), .refused opens error⟩

variable (executor node command options now state past) in
/-- What opening a session puts on a record goes behind what is on it already. -/
theorem keeps_openSession_behind :
    (executor.recording.openSession node options).Keeps (fun whole => safe whole.2)
      (fun result _ whole =>
        executor.OpenedBehind node command options now state past whole.2 result)
      now (state, past) := by
  unfold openSession
  cases addressed : node.primaryAddress with
  | none => exact ⟨[], (List.append_nil past).symm, .unreachable addressed⟩
  | some address =>
    simp only [awaitSocket_recording]
    apply (Activity.keeps_focus_first fun _ => trusted _).bind
    rintro isOpen later ⟨reached, record⟩ ⟨rfl, answered⟩
    have waits : executor.Waits node options now state
        { address := address, port := options.port } isOpen :=
      ⟨loginEndpoint_of_primaryAddress addressed options, later, reached, answered⟩
    cases isOpen with
    | false => exact ⟨[], (List.append_nil _).symm, .shut waits⟩
    | true =>
      cases known : options.credentialsFor node with
      | none => exact ⟨[], (List.append_nil _).symm, .keyless waits known⟩
      | some login => exact keeps_logIn_behind trusted ⟨waits, known⟩ later reached

/-- A run of a command puts one whole course on record. -/
theorem keeps_runCommand_behind :
    (executor.recording.runCommand node command options).Keeps (fun whole => safe whole.2)
      (fun result _ whole => ∃ full, whole.2 = past ++ full ∧
        executor.CommandCourse node command options now state full result)
      now (state, past) := by
  apply (executor.keeps_openSession_behind node command options now state past trusted).bind
  rintro (failure | tracked) later ⟨reached, record⟩ opened
  · exact opened
  · rcases opened with ⟨recorded, endpoint, login, opens, rfl⟩
    apply (keeps_executeIn recorded (trusted _) fun _ => trusted _).bind
    rintro ⟨result, session⟩ ended ⟨left, record⟩ ⟨settled, answer, rfl, rfl⟩
    apply (keeps_disconnect settled (trusted _)).bind
    rintro - final whole released
    exact ⟨_, released.trans (by simp only [List.append_assoc]), .ran opens answer⟩

end Trusting

/-- A run of a command that has ended has put one whole course on record. -/
theorem exists_course_of_run
    {result : Except ScriptFailure Response}
    {later : Nat}
    {reached : σ}
    {record : SessionRecord}
    (ran : (executor.recording.runCommand node command options).run now (state, past) =
      some (result, later, reached, record)) :
    ∃ full, record = past ++ full ∧
      executor.CommandCourse node command options now state full result := by
  have trusted : ∀ record : SessionRecord, (fun _ : SessionRecord => True) record :=
    fun _ => trivial
  exact (keeps_runCommand_behind trusted).goal_of_run ran

end Keeping

end Executor

end Fleet
