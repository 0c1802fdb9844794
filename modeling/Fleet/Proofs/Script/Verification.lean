import Fleet.Proofs.Retry.Series
import Fleet.Proofs.Script.CommandRuns

/-!
# Verifications

A verification consists of attempts in turn, each of them a run of its own: the wait for the port, a
session when one can be made, the command, and the release of the session. It ends with the response
of the first attempt whose response shows the marker, or with the failure of the last attempt. A
pause lies between two attempts. It lasts as long as the policy says, at most thirty years, and then
up to the next whole millisecond, because that is when timers ring.

The statements are about the executor that keeps a record of its sessions, and about the operation
that keeps a record of its calls beside it. Without these records a verification is the same.
-/

namespace Fleet

variable {σ S : Type}

/-- The marker occurs in the output or in the error text. -/
def Response.Shows (response : Response) (marker : String) : Prop :=
  marker.toList <:+: response.output.toList ∨ marker.toList <:+: response.error.toList

theorem Response.contains_iff
    {response : Response}
    {marker : String} :
    response.contains marker = true ↔ response.Shows marker := by
  rw [Response.contains, Bool.or_eq_true, Text.containsText_iff, Text.containsText_iff]
  rfl

namespace Executor

/-- A run of the command leaves an attempt with a failure: its own, or that the marker is
missing from the response. -/
inductive Misses (node : NodeId) (command marker : String) :
    Except ScriptFailure Response → ScriptFailure → Prop where
  | failed (failure : ScriptFailure) : Misses node command marker (.error failure) failure
  | unmarked {response : Response} (silent : ¬ response.Shows marker) :
    Misses node command marker (.ok response) (.markerMissing node command marker response)

/-- An attempt of a verification begins at an instant, in a state and with a record of sessions. -/
abbrev AttemptBegins
    (executor : Executor σ S)
    (node : Node)
    (command marker : String)
    (options : RunOptions)
    (policy : AttemptPolicy)
    (now : Nat)
    (state : σ) :
    Nat → Nat → σ × SessionRecord → Prop :=
  AttemptPolicy.Begins policy.backoff
    (fun _ => executor.recording.verifyOnce node command marker options) 1 now (state, [])

/-- What an attempt makes of a run of its command. -/
def judge (node : NodeId) (command marker : String) :
    Except ScriptFailure Response → Except ScriptFailure Response
  | .error failure => .error failure
  | .ok response =>
    if response.contains marker then .ok response
    else .error (.markerMissing node command marker response)

/-- An answer is accepted exactly when it is a response that shows the marker. -/
theorem judge_eq_ok_iff
    {node : NodeId}
    {command marker : String}
    {answer : Except ScriptFailure Response}
    {response : Response} :
    judge node command marker answer = .ok response ↔
      answer = .ok response ∧ response.Shows marker := by
  rw [← Response.contains_iff]
  cases answer with
  | error failure => simp [judge]
  | ok answer =>
    rw [judge]
    split
    case isTrue shows =>
      simp only [Except.ok.injEq, iff_self_and]
      rintro rfl
      exact shows
    case isFalse silent =>
      simp only [reduceCtorEq, Except.ok.injEq, false_iff, not_and]
      rintro rfl
      exact silent

/-- An answer is turned down exactly with what it misses. -/
theorem judge_eq_error_iff
    {node : NodeId}
    {command marker : String}
    {answer : Except ScriptFailure Response}
    {failure : ScriptFailure} :
    judge node command marker answer = .error failure ↔
      Misses node command marker answer failure := by
  constructor
  · intro judged
    cases answer with
    | error own =>
      cases judged
      exact .failed _
    | ok response =>
      rw [judge] at judged
      split at judged
      case isTrue => cases judged
      case isFalse silent =>
        cases judged
        exact .unmarked fun shown => silent (Response.contains_iff.2 shown)
  · intro missed
    cases missed with
    | failed => rfl
    | unmarked silent => rw [judge, if_neg fun shows => silent (Response.contains_iff.1 shows)]

section Attempts

variable {executor : Executor σ S} {node : Node} {command marker : String} {options : RunOptions}
  {now later : Nat} {state reached : σ}

/-- An attempt ends where and when its run of the command does. -/
theorem run_verifyOnce :
    (executor.verifyOnce node command marker options).run now state =
      ((executor.runCommand node command options).run now state).map
        fun (answer, later, reached) => (judge node.id command marker answer, later, reached) := by
  have judges : executor.verifyOnce node command marker options =
      (executor.runCommand node command options).bind fun answer =>
        .done (judge node.id command marker answer) := by
    rw [verifyOnce, Activity.bind_eq_bind]
    congr 1
    funext answer
    cases answer with
    | error failure => rfl
    | ok response => exact (apply_ite Activity.done _ _ _).symm
  rw [judges, Activity.run_bind]
  cases (executor.runCommand node command options).run now state <;> rfl

/-- An attempt succeeds when its command runs and the response shows the marker. -/
theorem run_verifyOnce_eq_ok_iff {response : Response} :
    (executor.verifyOnce node command marker options).run now state =
        some (.ok response, later, reached) ↔
      (executor.runCommand node command options).run now state =
          some (.ok response, later, reached) ∧
        response.Shows marker := by
  rw [run_verifyOnce, Option.map_eq_some_iff]
  constructor
  · rintro ⟨⟨answer, ended, left⟩, ran, same⟩
    simp only [Prod.mk.injEq, judge_eq_ok_iff] at same
    obtain ⟨⟨rfl, shows⟩, rfl, rfl⟩ := same
    exact ⟨ran, shows⟩
  · rintro ⟨ran, shows⟩
    exact ⟨_, ran, congrArg (·, later, reached) (judge_eq_ok_iff.2 ⟨rfl, shows⟩)⟩

/-- An attempt fails when its command fails, or when it runs and the marker is missing. -/
theorem run_verifyOnce_eq_error_iff {failure : ScriptFailure} :
    (executor.verifyOnce node command marker options).run now state =
        some (.error failure, later, reached) ↔
      ∃ answer, (executor.runCommand node command options).run now state =
          some (answer, later, reached) ∧
        Misses node.id command marker answer failure := by
  rw [run_verifyOnce, Option.map_eq_some_iff]
  constructor
  · rintro ⟨⟨answer, ended, left⟩, ran, same⟩
    simp only [Prod.mk.injEq, judge_eq_error_iff] at same
    obtain ⟨missed, rfl, rfl⟩ := same
    exact ⟨answer, ran, missed⟩
  · rintro ⟨answer, ran, missed⟩
    exact ⟨_, ran, congrArg (·, later, reached) (judge_eq_error_iff.2 missed)⟩

/-- An attempt never ends when its command never does. -/
theorem run_verifyOnce_eq_none_iff :
    (executor.verifyOnce node command marker options).run now state = none ↔
      (executor.runCommand node command options).run now state = none := by
  rw [run_verifyOnce, Option.map_eq_none_iff]

/-- The attempt that concludes a verification shows the marker, or it is the last one. -/
theorem exists_answer_of_concludes
    {policy : AttemptPolicy}
    {number start : Nat}
    {begun : σ}
    {result : Except ScriptFailure Response}
    (concludes : AttemptPolicy.Concludes policy.backoff
      (fun _ => executor.verifyOnce node command marker options) 1 now state policy.attempts number
      start begun result later reached) :
    ∃ answer, (executor.runCommand node command options).run start begun =
        some (answer, later, reached) ∧
      ((∃ response, result = .ok response ∧ answer = .ok response ∧ response.Shows marker ∧
          number ≤ policy.attempts) ∨
        ∃ failure, result = .error failure ∧ Misses node.id command marker answer failure ∧
          number = policy.attempts) := by
  cases result with
  | ok response =>
    obtain ⟨ran, shows⟩ := run_verifyOnce_eq_ok_iff.1 concludes.ended
    exact ⟨_, ran, Or.inl ⟨response, rfl, rfl, shows, concludes.within⟩⟩
  | error failure =>
    obtain ⟨answer, ran, missed⟩ := run_verifyOnce_eq_error_iff.1 concludes.ended
    rcases concludes.settled with ⟨_, ⟨⟩⟩ | last
    exact ⟨answer, ran, Or.inr ⟨failure, rfl, missed, last⟩⟩

end Attempts

section Verifications

variable (executor : Executor σ S) (node : Node) (command marker : String) (options : RunOptions)
  (policy : AttemptPolicy) (now : Nat) (state : σ)

variable {executor node command marker options policy now state}

/-- An attempt after the first one begins when the one before has failed, in the state that it has
left, after a pause. -/
theorem AttemptBegins.after_failure
    {number start : Nat}
    {begun : σ × SessionRecord}
    (begins : executor.AttemptBegins node command marker options policy now state (number + 1) start
      begun)
    (second : 1 ≤ number) :
    ∃ earlier before ended answer failure,
      executor.AttemptBegins node command marker options policy now state number earlier before ∧
      (executor.recording.runCommand node command options).run earlier before =
        some (answer, ended, begun) ∧
      Misses node.id command marker answer failure ∧
      start = Clock.wake ended policy.backoff := by
  cases begins with
  | first => omega
  | again earlier failed =>
    obtain ⟨answer, ran, missed⟩ := run_verifyOnce_eq_error_iff.1 failed
    exact ⟨_, _, _, answer, _, earlier, ran, missed, rfl⟩

/-- A verification succeeds as the first attempt whose response shows the marker. -/
theorem run_verify_eq_ok_iff
    {response : Response}
    {later : Nat}
    {reached : σ × SessionRecord} :
    (executor.recording.verify node command marker options policy).run now (state, []) =
        some (.ok response, later, reached) ↔
      ∃ number start begun, number ≤ policy.attempts ∧
        executor.AttemptBegins node command marker options policy now state number start begun ∧
        (executor.recording.runCommand node command options).run start begun =
          some (.ok response, later, reached) ∧
        response.Shows marker := by
  rw [verify, AttemptPolicy.run_eq_some_iff]
  constructor
  · rintro ⟨number, start, begun, begins, within, ended, _⟩
    exact ⟨number, start, begun, within, begins, run_verifyOnce_eq_ok_iff.1 ended⟩
  · rintro ⟨number, start, begun, within, begins, ended⟩
    exact ⟨number, start, begun, begins, within, run_verifyOnce_eq_ok_iff.2 ended,
      Or.inl ⟨response, rfl⟩⟩

/-- A verification fails as its last attempt does. -/
theorem run_verify_eq_error_iff
    {failure : ScriptFailure}
    {later : Nat}
    {reached : σ × SessionRecord} :
    (executor.recording.verify node command marker options policy).run now (state, []) =
        some (.error failure, later, reached) ↔
      ∃ start begun answer,
        executor.AttemptBegins node command marker options policy now state policy.attempts start
          begun ∧
        (executor.recording.runCommand node command options).run start begun =
          some (answer, later, reached) ∧
        Misses node.id command marker answer failure := by
  rw [verify, AttemptPolicy.run_eq_some_iff]
  constructor
  · rintro ⟨number, start, begun, begins, within, ended, ⟨_, ⟨⟩⟩ | rfl⟩
    obtain ⟨answer, ran, missed⟩ := run_verifyOnce_eq_error_iff.1 ended
    exact ⟨start, begun, answer, begins, ran, missed⟩
  · rintro ⟨start, begun, answer, begins, ran, missed⟩
    exact ⟨policy.attempts, start, begun, begins, Nat.le_refl _,
      run_verifyOnce_eq_error_iff.2 ⟨answer, ran, missed⟩, Or.inr rfl⟩

/-- A verification never ends when it comes to an attempt whose command never ends. -/
theorem run_verify_eq_none_iff :
    (executor.recording.verify node command marker options policy).run now (state, []) = none ↔
      ∃ number start begun, number ≤ policy.attempts ∧
        executor.AttemptBegins node command marker options policy now state number start begun ∧
        (executor.recording.runCommand node command options).run start begun = none := by
  rw [verify, AttemptPolicy.run_eq_none_iff]
  constructor
  · rintro ⟨number, start, begun, begins, within, hangs⟩
    exact ⟨number, start, begun, within, begins, run_verifyOnce_eq_none_iff.1 hangs⟩
  · rintro ⟨number, start, begun, within, begins, hangs⟩
    exact ⟨number, start, begun, begins, within, run_verifyOnce_eq_none_iff.2 hangs⟩

end Verifications

/-- A verification, whatever the node, the port and the sessions do.

Its records change nothing. It succeeds exactly as an attempt does that runs its command and shows
the marker, all attempts before it having failed; it fails exactly as its last attempt does, with
the failure of the run, or because the marker is missing from its response; and it never ends
exactly when one of its attempts does not. It calls the attempts by their numbers, from one up to
that of the attempt with which it ends, which is the last one unless it has succeeded. Every attempt
puts one whole course on record, and a course in which a session is made ends with its release. An
attempt after the first one begins in the state that the failure before it has left, on the first
whole millisecond that is not before the end of the pause, and no pause is longer than thirty
years. -/
theorem verify_takes_attempts_in_turn
    (executor : Executor σ S)
    (node : Node)
    (command marker : String)
    (options : RunOptions)
    (policy : AttemptPolicy)
    (now : Nat)
    (state : σ) :
    let recorded := executor.recording.verify node command marker options policy
    let logged := policy.run (AttemptPolicy.logged fun _ =>
      executor.recording.verifyOnce node command marker options)
    let run := executor.recording.runCommand node command options
    let Begins := executor.AttemptBegins node command marker options policy now state
    ((logged.run now ((state, []), [])).map
        (fun (result, later, reached, _) => (result, later, reached)) =
      recorded.run now (state, []) ∧
    (recorded.run now (state, [])).map
        (fun (result, later, reached, _) => (result, later, reached)) =
      (executor.verify node command marker options policy).run now state) ∧
    (∀ response later reached,
      recorded.run now (state, []) = some (.ok response, later, reached) ↔
        ∃ number start begun, number ≤ policy.attempts ∧ Begins number start begun ∧
          run.run start begun = some (.ok response, later, reached) ∧ response.Shows marker) ∧
    (∀ failure later reached,
      recorded.run now (state, []) = some (.error failure, later, reached) ↔
        ∃ start begun answer, Begins policy.attempts start begun ∧
          run.run start begun = some (answer, later, reached) ∧
          Misses node.id command marker answer failure) ∧
    (recorded.run now (state, []) = none ↔
      ∃ number start begun, number ≤ policy.attempts ∧ Begins number start begun ∧
        run.run start begun = none) ∧
    (∀ result later reached calls,
      logged.run now ((state, []), []) = some (result, later, reached, calls) →
        ∃ number start begun answer, Begins number start begun ∧
          run.run start begun = some (answer, later, reached) ∧
          ((∃ response, result = .ok response ∧ answer = .ok response ∧
            response.Shows marker ∧
              number ≤ policy.attempts) ∨
            ∃ failure, result = .error failure ∧
              Misses node.id command marker answer failure ∧
              number = policy.attempts) ∧
          calls.map AttemptPolicy.Call.number = List.range' 1 number ∧
          ∀ call ∈ calls, ∃ begun, Begins call.number call.instant begun) ∧
    (∀ start begun past answer ended reached record,
      run.run start (begun, past) = some (answer, ended, reached, record) →
        ∃ full, record = past ++ full ∧
          executor.CommandCourse node command options start begun full answer ∧
          (full = [] ∨ full.getLast? = some .disconnecting)) ∧
    (∀ number start begun, 1 ≤ number → Begins (number + 1) start begun →
      ∃ earlier before ended answer failure, Begins number earlier before ∧
        run.run earlier before = some (answer, ended, begun) ∧
        Misses node.id command marker answer failure ∧
        Duration.millisecond ∣ start ∧
        ended + min policy.backoff Clock.farFuture ≤ start ∧
        start < ended + min policy.backoff Clock.farFuture + Duration.millisecond ∧
        (Duration.millisecond ∣ ended → Duration.millisecond ∣ policy.backoff →
          policy.backoff ≤ Clock.farFuture → start = ended + policy.backoff)) := by
  intro recorded logged run Begins
  refine ⟨⟨?_, ?_⟩, fun _ _ _ => run_verify_eq_ok_iff, fun _ _ _ => run_verify_eq_error_iff,
    run_verify_eq_none_iff, ?_, ?_, ?_⟩
  · exact AttemptPolicy.shadows_logged policy
      (fun _ => executor.recording.verifyOnce node command marker options) now (state, []) []
  · exact (echoes_verify executor node command marker options policy).run now (state, [])
  · intro result later reached calls ran
    obtain ⟨number, start, begun, concludes, numbered, started⟩ :=
      AttemptPolicy.exists_concludes_of_logged ran
    obtain ⟨answer, commanded, settled⟩ := exists_answer_of_concludes concludes
    exact ⟨number, start, begun, answer, concludes.begins, commanded, settled,
      numbered, started⟩
  · intro start begun past answer ended reached record ran
    obtain ⟨full, appended, course⟩ := exists_course_of_run ran
    exact ⟨full, appended, course, course.released⟩
  · intro number start begun second begins
    obtain ⟨earlier, before, ended, answer, failure, earlierBegins, ran, missed, rfl⟩ :=
      begins.after_failure second
    refine ⟨earlier, before, ended, answer, failure, earlierBegins, ran, missed,
      Clock.dvd_roundUp _, Clock.le_roundUp _, Clock.roundUp_lt _,
      fun whole wholePause short => ?_⟩
    rw [Clock.wake_eq whole wholePause, Clock.slept_eq short]

/-! ## A pause of a fraction

A host that runs every command and prints nothing, and a node whose port is open. -/

def mutedHost : Executor Unit Unit where
  transport :=
    { create := fun _ _ => ()
      connect := fun _ => pure (.ok (), ())
      execute := fun _ _ => pure (.ok { exitStatus := some 0 }, ())
      disconnect := fun _ => pure () }
  probe _ := pure true
  freshToken := pure "token"

def openNode : Node where
  id := "n1"
  tag := "web"
  name := "web-1"
  state := .running
  image := "image"
  location := "zone"
  publicAddresses := [.v4 198 51 100 1]
  privateAddresses := []
  credentials := some { account := "root", key := "node-key" }
  metadata := Table.empty

/-- Two attempts take no time, and the pause between them is to last one and a half milliseconds.
The second attempt begins after two. -/
theorem fraction_of_a_millisecond_is_slept_to_its_end :
    let policy := AttemptPolicy.ofAttempts 2 1500000
    let attempt := mutedHost.verifyOnce openNode "true" "ready" {}
    attempt.run 0 () =
      some (.error (.markerMissing "n1" "true" "ready" { exitStatus := some 0 }), 0, ()) ∧
    ((policy.run (AttemptPolicy.logged fun _ => attempt)).run 0 ((), [])).map
        (fun (_, later, _, calls) => (later, calls)) =
      some (2000000, [{ number := 1, instant := 0 }, { number := 2, instant := 2000000 }]) ∧
    (2000000 : Nat) ≠ 0 + policy.backoff :=
  ⟨rfl, by decide +kernel, by decide⟩

end Executor

end Fleet
