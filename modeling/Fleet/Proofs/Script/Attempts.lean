import Fleet.Proofs.Activity.Noted
import Fleet.Proofs.Script.LoginRule
import Fleet.Proofs.Script.Recorded

/-!
# Attempts to log in

A run on a node is an attempt to log in: the port is waited for, and then a session is made with the
login that the sources present and connected, or the attempt ends because they present none.
Whatever the world and the session do, whether the run is finished or not, a session is made at most
once, and not before the port has opened. Nothing else that happens on the session makes or connects
another one. And when the port has opened the attempt is not stuck before its session is made.
-/

namespace Fleet

open Activity (Delay Status)

variable {σ S : Type}

/-- A session is made or connected. -/
def SessionEvent.opens : SessionEvent → Bool
  | created _ _ => true
  | connecting => true
  | _ => false

/-- A port of the node at its first address. -/
def Node.portAt (node : Node) (port : Nat) : Option Endpoint :=
  node.primaryAddress.map fun address => { address := address, port := port }

namespace Executor

/-- The wait for a port has come to an end along a path. -/
def Answers
    (executor : Executor σ S)
    (policy : PollPolicy)
    (endpoint : Endpoint)
    (path : List (Moment (σ × SessionRecord)))
    (isOpen : Bool) :
    Prop :=
  (awaitSocket executor.probe policy endpoint).along (path.map Moment.inner) = some isOpen

/-- An attempt to log in at a node along a path, with what it has noted and how it stands. -/
inductive Attempt {α : Type} (executor : Executor σ S) (policy : PollPolicy)
    (sources : LoginSources) (node : Node) (port : Nat) :
    List (Moment (σ × SessionRecord)) → SessionRecord →
      Status (Except ScriptFailure α) → Prop where
  /-- There is no address to go to. -/
  | unaddressed (nowhere : node.portAt port = none) :
    Attempt executor policy sources node port [] [] (.ended (.error (.noAddress node.id)))
  /-- The wait for the port is not over, and the attempt stands as it does. -/
  | waiting {endpoint : Endpoint} {path : List (Moment (σ × SessionRecord))} {delay : Delay}
      (addressed : node.portAt port = some endpoint)
      (stands : (awaitSocket executor.probe policy endpoint).status (path.map Moment.inner) =
        some (.delayed delay)) :
    Attempt executor policy sources node port path [] (.delayed delay)
  /-- The port has not opened in time. -/
  | shut {endpoint : Endpoint} {path : List (Moment (σ × SessionRecord))}
      (addressed : node.portAt port = some endpoint)
      (closed : executor.Answers policy endpoint path false) :
    Attempt executor policy sources node port path []
      (.ended (.error (.socketTimeout node.id endpoint)))
  /-- The port is open, and the sources present no login. -/
  | keyless {endpoint : Endpoint} {path : List (Moment (σ × SessionRecord))}
      (addressed : node.portAt port = some endpoint)
      (opened : executor.Answers policy endpoint path true)
      (unknown : ∀ login, ¬ sources.Presents login) :
    Attempt executor policy sources node port path []
      (.ended (.error (.missingCredentials node.id)))
  /-- The port is open, and the next step makes a session with the login that is presented. -/
  | ready {endpoint : Endpoint} {path : List (Moment (σ × SessionRecord))} {login : Credentials}
      (addressed : node.portAt port = some endpoint)
      (opened : executor.Answers policy endpoint path true)
      (presents : sources.Presents login) :
    Attempt executor policy sources node port path [] (.delayed .pending)
  /-- A session has been made with the login that is presented, and it has been asked to connect. -/
  | tried {endpoint : Endpoint} {early late : List (Moment (σ × SessionRecord))}
      {moment : Moment (σ × SessionRecord)} {login : Credentials} {others : SessionRecord}
      {status : Status (Except ScriptFailure α)}
      (addressed : node.portAt port = some endpoint)
      (opened : executor.Answers policy endpoint early true)
      (presents : sources.Presents login)
      (once : ∀ event ∈ others, event.opens = false)
      (answered : status ≠ .ended (.error (.missingCredentials node.id))) :
    Attempt executor policy sources node port (early ++ moment :: late)
      (.created endpoint login :: .connecting :: others) status

end Executor

/-! ## What sessions note -/

namespace SessionRecord

/-- No session is made or connected. -/
abbrev Calm (event : SessionEvent) : Prop :=
  event.opens = false

theorem utters_note
    {fits : SessionEvent → Prop}
    {events : SessionRecord}
    (all : ∀ event ∈ events, fits event) :
    (note events : Activity (σ × SessionRecord) Unit).Utters Prod.snd fits fun _ => True := by
  refine fun now whole => ⟨fun event among => all event ?_, trivial⟩
  change event ∈ (whole.2 ++ events).drop whole.2.length at among
  rwa [List.drop_left] at among

/-- A call on a session, once it is on record. -/
theorem utters_answered
    {α : Type}
    {call : Activity σ (α × S)}
    {after : α → SessionRecord}
    (told : ∀ answer, ∀ event ∈ after answer, Calm event) :
    Activity.Utters Prod.snd Calm (fun ending : α × Tracked S => ending.2.unrecorded = [])
      ((call.focus (Part.first σ SessionRecord)).bind fun ending =>
        (note (after ending.1)).bind fun _ => .done (ending.1, { session := ending.2 })) := by
  refine (Activity.utters_focus_first Calm call).bind fun ending _ => ?_
  exact (utters_note (told ending.1)).bind fun _ _ => rfl

theorem utters_around
    {α : Type}
    {before : SessionRecord}
    {call : Activity σ (α × S)}
    {after : α → SessionRecord}
    (asked : ∀ event ∈ before, Calm event)
    (told : ∀ answer, ∀ event ∈ after answer, Calm event) :
    (around before call after).Utters Prod.snd Calm fun ending => ending.2.unrecorded = [] :=
  (utters_note asked).bind fun _ _ => utters_answered told

end SessionRecord

namespace Executor

open SessionRecord

/-- A result of work on a session: it does not complain that there is no login. -/
def Informed {α : Type} (result : Except ScriptFailure α) : Prop :=
  ∀ node, result ≠ .error (.missingCredentials node)

theorem informed_ofSession
    {α : Type}
    (node : NodeId)
    (stage : Stage)
    (error : SessionError) :
    Informed (.error (.ofSession node stage error) : Except ScriptFailure α) := by
  intro other same
  rw [ScriptFailure.ofSession] at same
  split at same <;> cases same

section Work

variable {transport : Transport σ S} {node : NodeId}

theorem utters_disconnect
    {tracked : Tracked S}
    (recorded : tracked.unrecorded = []) :
    (discard (transport.recording.disconnect tracked)).Utters Prod.snd Calm fun _ => True := by
  have noted : ∀ event ∈ tracked.unrecorded ++ [.disconnecting], Calm event := by
    rw [recorded]
    simp [Calm, SessionEvent.opens]
  have released : (transport.recording.disconnect tracked).Utters Prod.snd Calm fun _ => True :=
    (utters_note noted).bind fun _ _ =>
      (Activity.utters_focus_first Calm (transport.disconnect tracked.session)).bind
        fun _ _ => trivial
  exact released.bind fun _ _ => trivial

/-- A command in a session is calm. -/
theorem utters_executeIn
    (command : String)
    {tracked : Tracked S}
    (recorded : tracked.unrecorded = []) :
    (executeIn transport.recording node command tracked).Utters Prod.snd Calm fun ending =>
      Informed ending.1 ∧ ending.2.unrecorded = [] := by
  have noted : ∀ event ∈ tracked.unrecorded ++ [.executing command], Calm event := by
    rw [recorded]
    simp [Calm, SessionEvent.opens]
  have told : ∀ answer : Except SessionError Response,
      ∀ event ∈ [SessionEvent.executed answer], Calm event := by
    simp [Calm, SessionEvent.opens]
  refine (utters_around noted told).bind ?_
  rintro ⟨answer, session⟩ still
  cases answer with
  | error error => exact ⟨informed_ofSession node .executing error, still⟩
  | ok response => exact ⟨fun _ same => (by cases same), still⟩

/-- An upload and the run of what was uploaded are calm. -/
theorem utters_uploadAndRun
    (executor : Executor σ S)
    (node : NodeId)
    (script : String)
    {tracked : Tracked S}
    (recorded : tracked.unrecorded = []) :
    (executor.recording.uploadAndRun node script tracked).Utters Prod.snd Calm fun ending =>
      Informed ending.1 ∧ ending.2.unrecorded = [] := by
  refine (Activity.utters_focus_first Calm executor.freshToken).bind fun token _ => ?_
  refine (Activity.utters_focus_first Calm executor.freshToken).bind fun limit _ => ?_
  refine (utters_executeIn _ recorded).bind ?_
  rintro ⟨answer, session⟩ ⟨informed, still⟩
  cases answer with
  | error failure => exact ⟨informed, still⟩
  | ok upload =>
    dsimp only
    split
    · exact utters_executeIn _ still
    · exact ⟨fun _ same => (by cases same), still⟩

variable (transport node) in
/-- A login makes a session and asks it to connect in one step, and makes no other one. -/
theorem logIn_recording
    (endpoint : Endpoint)
    (login : Credentials) :
    ∃ rest : Activity (σ × SessionRecord) (Except ScriptFailure (Tracked S)),
      logIn transport.recording node endpoint login =
        (note [.created endpoint login, .connecting]).bind (fun _ => rest) ∧
      rest.Utters Prod.snd Calm fun result =>
        Informed result ∧ ∀ tracked, result = .ok tracked → tracked.unrecorded = [] := by
  refine ⟨_, rfl, ?_⟩
  have told : ∀ answer : Except SessionError Unit,
      ∀ event ∈ [SessionEvent.connected answer], Calm event := by
    simp [Calm, SessionEvent.opens]
  refine (utters_answered told).bind ?_
  rintro ⟨answer, tracked⟩ still
  cases answer with
  | ok _ =>
    refine ⟨fun _ same => (by cases same), ?_⟩
    rintro _ ⟨⟩
    exact still
  | error error =>
    exact (utters_disconnect still).bind fun _ _ =>
      ⟨informed_ofSession node .connecting error, fun _ same => by cases same⟩

end Work

/-! ## Runs -/

section Continued

variable {α β : Type} {executor : Executor σ S} {policy : PollPolicy} {sources : LoginSources}
  {node : Node} {port : Nat} {path : List (Moment (σ × SessionRecord))} {events : SessionRecord}

/-- An attempt that is on its way is so whatever it is to end with. -/
theorem Attempt.of_delayed
    {delay : Delay}
    (attempt : executor.Attempt policy sources node port path events
      (.delayed delay : Status (Except ScriptFailure α))) :
    executor.Attempt policy sources node port path events
      (.delayed delay : Status (Except ScriptFailure β)) := by
  cases attempt with
  | waiting addressed stands => exact .waiting addressed stands
  | ready addressed opened presents => exact .ready addressed opened presents
  | tried addressed opened presents once => exact .tried addressed opened presents once (by simp)

/-- An attempt that has failed has failed whatever it was to end with. -/
theorem Attempt.of_failed
    {failure : ScriptFailure}
    (attempt : executor.Attempt policy sources node port path events
      (.ended (.error failure) : Status (Except ScriptFailure α))) :
    executor.Attempt policy sources node port path events
      (.ended (.error failure) : Status (Except ScriptFailure β)) := by
  cases attempt with
  | unaddressed nowhere => exact .unaddressed nowhere
  | shut addressed closed => exact .shut addressed closed
  | keyless addressed opened unknown => exact .keyless addressed opened unknown
  | tried addressed opened presents once answered =>
    refine .tried addressed opened presents once fun same => answered ?_
    cases same
    rfl

/-- An attempt that has led to a session goes on calmly. -/
theorem Attempt.onwards
    {value : α}
    {late : List (Moment (σ × SessionRecord))}
    {more : SessionRecord}
    {status : Status (Except ScriptFailure β)}
    (attempt : executor.Attempt policy sources node port path events (.ended (.ok value)))
    (calm : ∀ event ∈ more, Calm event)
    (answered : status ≠ .ended (.error (.missingCredentials node.id))) :
    executor.Attempt policy sources node port (path ++ late) (events ++ more) status := by
  cases attempt with
  | tried addressed opened presents once =>
    rw [List.append_assoc, List.cons_append]
    refine .tried addressed opened presents (fun event among => ?_) answered
    exact (List.mem_append.1 among).elim (once event) (calm event)

end Continued

section Runs

variable {executor : Executor σ S} {sources : LoginSources} {node : Node} {options : RunOptions}
  {path : List (Moment (σ × SessionRecord))} {events : SessionRecord}

/-- A login in progress is the one attempt that is made of its session. -/
theorem attempt_logIn
    {endpoint : Endpoint}
    {login : Credentials}
    {port : Nat}
    {policy : PollPolicy}
    {early : List (Moment (σ × SessionRecord))}
    (addressed : node.portAt port = some endpoint)
    (opened : executor.Answers policy endpoint early true)
    (presents : sources.Presents login)
    {status : Status (Except ScriptFailure (Tracked S))}
    (told : (logIn executor.recording.transport node.id endpoint login).noted Prod.snd path =
      some (events, status)) :
    Attempt executor policy sources node port (early ++ path) events status ∧
      ∀ tracked, status = .ended (.ok tracked) → tracked.unrecorded = [] := by
  obtain ⟨rest, enters, utters⟩ := logIn_recording executor.transport node.id endpoint login
  change (logIn executor.transport.recording node.id endpoint login).noted _ _ = _ at told
  rw [enters] at told
  cases path with
  | nil =>
    cases told
    rw [List.append_nil]
    exact ⟨.ready addressed opened presents, fun _ finished => by cases finished⟩
  | cons moment path =>
    obtain ⟨later, following, rfl⟩ := Activity.noted_step_cons_iff.1 told
    obtain ⟨calm, informed⟩ := utters.of_noted following
    refine ⟨?_, fun tracked finished => (informed _ finished).2 tracked rfl⟩
    change Attempt executor policy sources node port _
      ((moment.state.2 ++ [SessionEvent.created endpoint login, .connecting]).drop
        moment.state.2.length ++ later) status
    rw [List.drop_left]
    exact .tried addressed opened presents calm fun finished => (informed _ finished).1 _ rfl

/-- Opening a session is an attempt to log in. -/
theorem attempt_openSession
    (rule : ∀ login, options.credentialsFor node = some login ↔ sources.Presents login)
    {status : Status (Except ScriptFailure (Tracked S))}
    (told : (executor.recording.openSession node options).noted Prod.snd path =
      some (events, status)) :
    Attempt executor options.socketWait sources node options.port path events status ∧
      ∀ tracked, status = .ended (.ok tracked) → tracked.unrecorded = [] := by
  rw [openSession] at told
  cases located : node.primaryAddress with
  | none =>
    rw [located] at told
    obtain ⟨rfl, rfl, rfl⟩ := Activity.noted_done_iff.1 told
    refine ⟨.unaddressed ?_, fun _ failed => by cases failed⟩
    rw [Node.portAt, located, Option.map_none]
  | some address =>
    have addressed : node.portAt options.port =
        some { address := address, port := options.port } := by
      rw [Node.portAt, located, Option.map_some]
    rw [located] at told
    dsimp only at told
    rw [awaitSocket_recording] at told
    rcases Activity.noted_focus_first_bind told with
      ⟨delay, rfl, rfl, stands⟩ | ⟨early, late, isOpen, rfl, answered, onwards⟩
    · exact ⟨.waiting addressed stands, fun _ ended => by cases ended⟩
    · cases isOpen with
      | false =>
        obtain ⟨rfl, rfl, rfl⟩ := Activity.noted_done_iff.1 onwards
        rw [List.append_nil]
        exact ⟨.shut addressed answered, fun _ failed => by cases failed⟩
      | true =>
        rw [if_pos rfl] at onwards
        cases known : options.credentialsFor node with
        | none =>
          rw [known] at onwards
          obtain ⟨rfl, rfl, rfl⟩ := Activity.noted_done_iff.1 onwards
          rw [List.append_nil]
          refine ⟨.keyless addressed answered fun login presents => ?_,
            fun _ failed => by cases failed⟩
          rw [← rule login, known] at presents
          cases presents
        | some login =>
          rw [known] at onwards
          exact attempt_logIn addressed answered ((rule login).1 known) onwards

/-- Work in a session goes on with the attempt that opened it. -/
theorem attempt_withSession
    (rule : ∀ login, options.credentialsFor node = some login ↔ sources.Presents login)
    {work : Tracked S → Activity (σ × SessionRecord)
      (Except ScriptFailure Response × Tracked S)}
    (works : ∀ tracked, tracked.unrecorded = [] →
      (work tracked).Utters Prod.snd Calm fun ending =>
      Informed ending.1 ∧ ending.2.unrecorded = [])
    {status : Status (Except ScriptFailure Response)}
    (told : (executor.recording.withSession node options work).noted Prod.snd path =
      some (events, status)) :
    Attempt executor options.socketWait sources node options.port path events status := by
  rcases Activity.noted_bind told with
    ⟨delay, underway, rfl⟩ |
    ⟨early, late, mine, theirs, opened, rfl, rfl, opening, following⟩
  · exact (attempt_openSession rule underway).1.of_delayed
  · obtain ⟨attempt, recorded⟩ := attempt_openSession rule opening
    cases opened with
    | error failure =>
      obtain ⟨rfl, rfl, rfl⟩ := Activity.noted_done_iff.1 following
      rw [List.append_nil, List.append_nil]
      exact attempt.of_failed
    | ok tracked =>
      have utters : Activity.Utters Prod.snd Calm Informed
          ((work tracked).bind fun ending =>
            (discard (executor.recording.transport.disconnect ending.2)).bind fun _ =>
              .done ending.1) :=
        (works tracked (recorded tracked rfl)).bind fun ending ⟨informed, still⟩ =>
          (utters_disconnect still).bind fun _ _ => informed
      obtain ⟨calm, informed⟩ := utters.of_noted following
      exact attempt.onwards calm fun ended => informed _ ended node.id rfl

theorem attempt_runScript
    (script : String)
    (rule : ∀ login, options.credentialsFor node = some login ↔ sources.Presents login)
    {status : Status (Except ScriptFailure Response)}
    (told : (executor.recording.runScript node script options).noted Prod.snd path =
      some (events, status)) :
    Attempt executor options.socketWait sources node options.port path events status :=
  attempt_withSession rule
    (fun _ recorded => utters_uploadAndRun executor node.id script recorded) told

/-- An attempt of a verification is an attempt to log in. -/
theorem attempt_verifyOnce
    (command marker : String)
    (rule : ∀ login, options.credentialsFor node = some login ↔ sources.Presents login)
    {status : Status (Except ScriptFailure Response)}
    (told : (executor.recording.verifyOnce node command marker options).noted Prod.snd path =
      some (events, status)) :
    Attempt executor options.socketWait sources node options.port path events status := by
  have attempts : ∀ {path events} {status : Status (Except ScriptFailure Response)},
      (executor.recording.runCommand node command options).noted Prod.snd path =
        some (events, status) →
      Attempt executor options.socketWait sources node options.port path events status :=
    attempt_withSession rule fun _ recorded => utters_executeIn command recorded
  rcases Activity.noted_bind told with
    ⟨delay, underway, rfl⟩ | ⟨early, late, mine, theirs, answer, rfl, rfl, ran, judged⟩
  · exact attempts underway
  · cases answer with
    | error failure =>
      obtain ⟨rfl, rfl, rfl⟩ := Activity.noted_done_iff.1 judged
      rw [List.append_nil, List.append_nil]
      exact attempts ran
    | ok response =>
      have utters : Activity.Utters (σ := σ × SessionRecord) Prod.snd Calm Informed
          (if response.contains marker then .done (.ok response)
            else .done (.error (.markerMissing node.id command marker response))) := by
        split <;> exact fun _ same => by cases same
      obtain ⟨calm, informed⟩ := utters.of_noted judged
      exact (attempts ran).onwards calm fun ended => informed _ ended node.id rfl

/-- The attempts of a verification, with a pause between a failure and the next attempt. -/
inductive Verification (executor : Executor σ S) (policy : PollPolicy) (sources : LoginSources)
    (node : Node) (port : Nat) : List (Moment (σ × SessionRecord)) → SessionRecord →
      Status (Except ScriptFailure Response) → Prop where
  /-- The attempt that is going on, or whose result is that of the verification. -/
  | last {path : List (Moment (σ × SessionRecord))} {events : SessionRecord}
      {status : Status (Except ScriptFailure Response)}
      (attempt : executor.Attempt policy sources node port path events status) :
    Verification executor policy sources node port path events status
  | pausing {path : List (Moment (σ × SessionRecord))} {events : SessionRecord}
      {failure : ScriptFailure}
      (attempt : executor.Attempt policy sources node port path events
        (.ended (.error failure : Except ScriptFailure Response))) :
    Verification executor policy sources node port path events (.delayed .pending)
  | again {early late : List (Moment (σ × SessionRecord))} {moment : Moment (σ × SessionRecord)}
      {events more : SessionRecord} {failure : ScriptFailure}
      {status : Status (Except ScriptFailure Response)}
      (attempt : executor.Attempt policy sources node port early events
        (.ended (.error failure : Except ScriptFailure Response)))
      (rest : Verification executor policy sources node port late more status) :
    Verification executor policy sources node port (early ++ moment :: late) (events ++ more)
      status

/-- Attempts that follow each other make up the course of a verification. -/
theorem verification_attemptFrom
    {policy : PollPolicy}
    {port : Nat}
    {operation : Nat → Activity (σ × SessionRecord) (Except ScriptFailure Response)}
    (attempts : ∀ number {path events status},
      (operation number).noted Prod.snd path = some (events, status) →
      executor.Attempt policy sources node port path events status)
    {backoff number more : Nat}
    {status : Status (Except ScriptFailure Response)}
    (told : (AttemptPolicy.attemptFrom backoff operation number more).noted Prod.snd path =
      some (events, status)) :
    executor.Verification policy sources node port path events status := by
  induction more generalizing number path events with
  | zero => exact .last (attempts number told)
  | succ more inductionHypothesis =>
    rcases Activity.noted_bind told with
      ⟨delay, underway, rfl⟩ |
      ⟨early, late, mine, theirs, result, rfl, rfl, attempted, following⟩
    · exact .last (attempts number underway)
    · cases result with
      | ok response =>
        obtain ⟨rfl, rfl, rfl⟩ := Activity.noted_done_iff.1 following
        rw [List.append_nil, List.append_nil]
        exact .last (attempts number attempted)
      | error failure =>
        rcases Activity.noted_sleep_bind following with
          ⟨rfl, rfl, rfl⟩ | ⟨moment, later, rfl, resumed⟩
        · rw [List.append_nil, List.append_nil]
          exact .pausing (attempts number attempted)
        · exact .again (attempts number attempted) (inductionHypothesis resumed)

/-- A verification consists of attempts to log in. -/
theorem verification_verify
    (command marker : String)
    (policy : AttemptPolicy)
    (rule : ∀ login, options.credentialsFor node = some login ↔ sources.Presents login)
    {status : Status (Except ScriptFailure Response)}
    (told : (executor.recording.verify node command marker options policy).noted Prod.snd path =
      some (events, status)) :
    executor.Verification options.socketWait sources node options.port path events status :=
  verification_attemptFrom (fun _ _ _ _ => attempt_verifyOnce command marker rule) told

end Runs

end Executor

end Fleet
