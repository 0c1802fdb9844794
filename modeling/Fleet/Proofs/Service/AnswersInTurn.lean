import Fleet.Proofs.Retry.Schedule
import Fleet.Proofs.Service.Destruction
import Fleet.Proofs.Service.Verdict

/-!
# A wait whose looks are answered at once

When no look takes time, the looks of a wait follow each other at the distance of its pauses, and
the answers in their order decide everything: the wait ends with the first answer that concludes, or
else with the last one for which the budget has room. Pauses are cut off at thirty years, so a wait
with longer ones has room for more looks than its period says.
-/

namespace Fleet

namespace Clock

/-- The instant after a number of pauses, when nothing takes time but them. -/
def afterPauses (now period : Nat) : Nat → Nat
  | 0 => now
  | number + 1 => wake (afterPauses now period number) period

theorem afterPauses_lt_succ
    (now number : Nat)
    {period : Nat}
    (positive : 0 < period) :
    afterPauses now period number < afterPauses now period (number + 1) :=
  lt_wake _ positive

/-- On whole milliseconds the pauses take just their own time. -/
theorem afterPauses_eq
    {now period : Nat}
    (wholeNow : Duration.millisecond ∣ now)
    (whole : Duration.millisecond ∣ period)
    (number : Nat) :
    afterPauses now period number = now + number * slept period := by
  induction number with
  | zero => simp [afterPauses]
  | succ number inductionHypothesis =>
    have stillWhole : Duration.millisecond ∣ now + number * slept period :=
      Nat.dvd_add wholeNow (Nat.dvd_mul_left_of_dvd (dvd_slept whole) number)
    rw [afterPauses, inductionHypothesis, wake_eq stillWhole whole, Nat.succ_mul, Nat.add_assoc]

end Clock

open Look PollPolicy

namespace Service

variable {σ S : Type}

/-- The answers before the one with a number, which counts from zero. -/
def answersBefore (answers : Nat → Look) (number : Nat) : List Look :=
  (List.range number).map answers

@[simp]
theorem answersBefore_succ
    (answers : Nat → Look)
    (number : Nat) :
    answersBefore answers (number + 1) = answersBefore answers number ++ [answers number] := by
  simp [answersBefore, List.range_succ]

/-- The budget of a wait has room for the look with a number; one that reaches past the end of the
clock always has. -/
def HasRoom (settings : ServiceSettings) (now number : Nat) : Prop :=
  ∀ final, Clock.later now settings.runningTimeout = some final →
    Clock.afterPauses now settings.pollPeriod number ≤ final

theorem hasRoom_of_le
    {settings : ServiceSettings}
    {now number final : Nat}
    (ends : Clock.later now settings.runningTimeout = some final)
    (inTime : Clock.afterPauses now settings.pollPeriod number ≤ final) :
    HasRoom settings now number := by
  intro other endsToo
  rw [ends] at endsToo
  cases endsToo
  exact inTime

theorem hasRoom_of_endless
    {settings : ServiceSettings}
    {now : Nat}
    (number : Nat)
    (endless : Clock.later now settings.runningTimeout = none) :
    HasRoom settings now number := by
  intro final ends
  rw [endless] at ends
  cases ends

/-- The provider answers at once to each look that a wait may come to. -/
def AnswersInTurn
    (service : Service σ S)
    (id : NodeId)
    (known : NodeState)
    (now : Nat)
    (answers : Nat → Look)
    (states : Nat → σ) :
    Prop :=
  ∀ number, AllPass known (answersBefore answers number) →
    HasRoom service.settings now number →
    (service.provider.get id).run (Clock.afterPauses now service.settings.pollPeriod number)
        (states number) =
      some (answers number, Clock.afterPauses now service.settings.pollPeriod number,
        states (number + 1))

/-- A wait comes to something, with some looks, at an instant and in a state. -/
def ComesTo
    (service : Service σ S)
    (id : NodeId)
    (known : NodeState)
    (now : Nat)
    (state : σ)
    (settling : Settling)
    (looks : List Look)
    (later : Nat)
    (reached : σ) :
    Prop :=
  (service.awaitSettled id known).run now state = some (settling, later, reached) ∧
    (service.loggedWait id known).run now state = some ((settling, looks), later, reached)

/-- Where a wait stands before the look with a number. -/
def standing
    (period : Nat)
    (known : NodeState)
    (now : Nat)
    (answers : Nat → Look)
    (states : Nat → σ)
    (number : Nat) :
    Stand σ (Sighting × List Look) where
  instant := Clock.afterPauses now period number
  state := states number
  memory := (.ofLooks known (answersBefore answers number), answersBefore answers number)

variable {service : Service σ S} {id : NodeId} {known : NodeState} {now : Nat}
  {answers : Nat → Look} {states : Nat → σ} {number : Nat}

/-- A wait comes to what its last sighting tells. -/
theorem comesTo_of_follow
    {ended : Bool}
    {sighting : Sighting}
    {looks : List Look}
    {later : Nat}
    {reached : σ}
    (followed : ((settlePolicy service.settings).follow (loggedLook service.provider id)
      (.ofLooks known [], [])).run now (states 0) =
        some ((ended, sighting, looks), later, reached)) :
    service.ComesTo id known now (states 0) (sighting.outcome id ended) looks later reached := by
  have logged : (service.loggedWait id known).run now (states 0) =
      some ((sighting.outcome id ended, looks), later, reached) :=
    Activity.run_bind_of_run followed
  refine ⟨?_, logged⟩
  rw [awaitSettled_eq_logged, Activity.run_map, logged]
  rfl

/-- A look that is answered finishes at once. -/
theorem finishes_of_answered
    (answered : (service.provider.get id).run
        (Clock.afterPauses now service.settings.pollPeriod number) (states number) =
      some (answers number, Clock.afterPauses now service.settings.pollPeriod number,
        states (number + 1)))
    {ends : Bool}
    {sighting : Sighting}
    (noted : (Sighting.ofLooks known (answersBefore answers number)).note (answers number) =
      (ends, sighting)) :
    Finishes (loggedLook service.provider id)
      (standing service.settings.pollPeriod known now answers states number) ends
      ⟨Clock.afterPauses now service.settings.pollPeriod number, states (number + 1),
        (sighting, answersBefore answers (number + 1))⟩ := by
  rw [Finishes, loggedLook, Activity.bind_eq_bind]
  refine (Activity.run_bind_of_run answered).trans ?_
  simp [standing, noted]

/-- Where a wait stands, as long as all its looks have passed. -/
theorem starts_standing
    (answering : service.AnswersInTurn id known now answers states)
    (positive : 0 < service.settings.pollPeriod)
    (passed : AllPass known (answersBefore answers number))
    (room : HasRoom service.settings now number) :
    Starts (loggedLook service.provider id) (Clock.wake · service.settings.pollPeriod)
      (standing service.settings.pollPeriod known now answers states 0) number
      (standing service.settings.pollPeriod known now answers states number) := by
  induction number with
  | zero => exact .first
  | succ number inductionHypothesis =>
    rw [answersBefore_succ, allPass_concat_iff] at passed
    have earlier := Clock.afterPauses_lt_succ now number positive
    have roomBefore : HasRoom service.settings now number := fun final ends =>
      Nat.le_trans (Nat.le_of_lt earlier) (room final ends)
    have finishes := finishes_of_answered (answering number passed.1 roomBefore)
      (Sighting.note_of_passes passed.2)
    rw [← answersBefore_succ] at finishes
    have starts := Starts.next (inductionHypothesis passed.1 roomBefore) finishes
    simpa only [standing, Clock.afterPauses] using starts

/-- A wait is nowhere else: each look that starts within the budget finds all looks before it
passed. -/
theorem standing_of_starts
    (answering : service.AnswersInTurn id known now answers states)
    {final : Nat}
    (ends : Clock.later now service.settings.runningTimeout = some final)
    {start : Stand σ (Sighting × List Look)}
    (starts : Starts (loggedLook service.provider id) (Clock.wake · service.settings.pollPeriod)
      (standing service.settings.pollPeriod known now answers states 0) number start)
    (inTime : start.instant ≤ final) :
    AllPass known (answersBefore answers number) ∧
      start = standing service.settings.pollPeriod known now answers states number := by
  induction starts with
  | first => exact ⟨.none, rfl⟩
  | @next number start ended starts failed inductionHypothesis =>
    have startsInTime : start.instant ≤ final :=
      Nat.le_trans failed.le (Nat.le_trans (Clock.le_wake _ _) inTime)
    rcases inductionHypothesis startsInTime with ⟨passed, rfl⟩
    have answered := answering number passed (hasRoom_of_le ends startsInTime)
    rcases Sighting.note_cases id known (answersBefore answers number) (answers number) with
      ⟨passes, noted⟩ | ⟨sighting, noted, -⟩
    · have same := (failed.unique (finishes_of_answered answered noted)).2
      rw [same, answersBefore_succ, allPass_concat_iff]
      refine ⟨⟨passed, passes⟩, ?_⟩
      simp [standing, Clock.afterPauses]
    · cases (failed.unique (finishes_of_answered answered noted)).1

/-- The budget has room for no more looks than pauses, and one. -/
theorem le_rounds_of_starts
    (positive : 0 < service.settings.pollPeriod)
    {start : Stand σ (Sighting × List Look)}
    (starts : Starts (loggedLook service.provider id) (Clock.wake · service.settings.pollPeriod)
      (standing service.settings.pollPeriod known now answers states 0) number start)
    (inTime : start.instant ≤ now + service.settings.runningTimeout) :
    number ≤ service.settings.runningTimeout / Clock.slept service.settings.pollPeriod := by
  have paused : ∀ instant, instant + Clock.slept service.settings.pollPeriod ≤
      Clock.wake instant service.settings.pollPeriod := fun _ => Clock.le_roundUp _
  have spaced := starts.spaced paused
  have fits : now + number * Clock.slept service.settings.pollPeriod ≤
    now + service.settings.runningTimeout := Nat.le_trans spaced inTime
  rw [Nat.le_div_iff_mul_le (Clock.slept_pos positive)]
  exact Nat.le_of_add_le_add_left fits

/-- When no time is left for another look, and everything happens on whole milliseconds, no look is
missing. -/
theorem rounds_of_no_time
    (noTime : now + service.settings.runningTimeout <
      Clock.afterPauses now service.settings.pollPeriod (number + 1))
    (fits : number ≤ service.settings.runningTimeout / Clock.slept service.settings.pollPeriod)
    (wholeNow : Duration.millisecond ∣ now)
    (whole : Duration.millisecond ∣ service.settings.pollPeriod) :
    number = service.settings.runningTimeout / Clock.slept service.settings.pollPeriod := by
  rw [Clock.afterPauses_eq wholeNow whole] at noTime
  have fewer := Nat.div_lt_of_lt_mul (Nat.mul_comm _ _ ▸ Nat.lt_of_add_lt_add_left noTime)
  omega

/-- A wait whose budget ends within the clock stops with one of its looks. All looks before it have
passed, and it starts within the budget. -/
theorem exists_last_look
    (answering : service.AnswersInTurn id known now answers states)
    (positive : 0 < service.settings.pollPeriod)
    (represented : (Clock.later now service.settings.runningTimeout).isSome = true) :
    ∃ number ended reached,
      ((settlePolicy service.settings).follow (loggedLook service.provider id)
          (.ofLooks known [], [])).run now (states 0) =
        some ((ended, reached.memory), reached.instant, reached.state) ∧
      AllPass known (answersBefore answers number) ∧ HasRoom service.settings now number ∧
      number ≤ service.settings.runningTimeout / Clock.slept service.settings.pollPeriod ∧
      Clock.afterPauses now service.settings.pollPeriod number ≤
        Clock.roundUp (now + service.settings.runningTimeout) ∧
      Stops (loggedLook service.provider id) service.settings.pollPeriod
        (now + service.settings.runningTimeout)
        (standing service.settings.pollPeriod known now answers states number) ended reached := by
  have pauses : 0 < (settlePolicy service.settings).period := positive
  rcases PollPolicy.run_follow (loggedLook service.provider id)
      (standing service.settings.pollPeriod known now answers states 0) pauses represented with
    ⟨number, ended, reached, ran, start, starts, inTime, stops⟩
  rcases Option.isSome_iff_exists.1 represented with ⟨final, ends⟩
  cases Clock.eq_of_later ends
  rcases standing_of_starts answering ends starts inTime with ⟨passed, rfl⟩
  exact ⟨number, ended, reached, ran, passed, hasRoom_of_le ends inTime,
    le_rounds_of_starts positive starts inTime, Nat.le_trans inTime (Clock.le_roundUp _), stops⟩

/-- A wait whose looks are answered at once ends with the first of them that concludes, with what it
concludes. When none does, it has made every look for which its budget has room, and comes to what
the last one left. With a budget that reaches past the end of the clock, the wait ends in no other
way than by a look that concludes. -/
theorem awaitSettled_judges_answers
    (answering : service.AnswersInTurn id known now answers states)
    (positive : 0 < service.settings.pollPeriod) :
    ((Clock.later now service.settings.runningTimeout).isSome = true →
      ∃ number settling later,
        number ≤ service.settings.runningTimeout / Clock.slept service.settings.pollPeriod ∧
        service.ComesTo id known now (states 0) settling (answersBefore answers (number + 1)) later
          (states (number + 1)) ∧
        AllPass known (answersBefore answers number) ∧
        ((Concludes id (lastSeen known (answersBefore answers number)) (answers number) settling ∧
            later = Clock.afterPauses now service.settings.pollPeriod number) ∨
          (Passes (lastSeen known (answersBefore answers number)) (answers number) ∧
            settling = remainder id (answers number) ∧
            now + service.settings.runningTimeout <
              Clock.afterPauses now service.settings.pollPeriod (number + 1) ∧
            (Duration.millisecond ∣ now →
              Duration.millisecond ∣ service.settings.pollPeriod →
              number =
                service.settings.runningTimeout / Clock.slept service.settings.pollPeriod)))) ∧
    (Clock.later now service.settings.runningTimeout = none →
      ∀ number < PollPolicy.unboundedEvaluations, ∀ settling,
        AllPass known (answersBefore answers number) →
        Concludes id (lastSeen known (answersBefore answers number)) (answers number) settling →
        service.ComesTo id known now (states 0) settling (answersBefore answers (number + 1))
          (Clock.afterPauses now service.settings.pollPeriod number) (states (number + 1))) ∧
    (Clock.later now service.settings.runningTimeout = none →
      ∀ number, number = PollPolicy.unboundedEvaluations →
        AllPass known (answersBefore answers number) →
        (service.awaitSettled id known).run now (states 0) = none) := by
  refine ⟨?_, ?_, ?_⟩
  · intro represented
    rcases exists_last_look answering positive represented with
      ⟨number, ended, ⟨later, left, memory⟩, ran, passed, room, rounds, counts, stops⟩
    refine ⟨number, ?_⟩
    rcases Sighting.note_cases id known (answersBefore answers number) (answers number) with
      ⟨passes, noted⟩ | ⟨sighting, noted, concludes⟩
    · have failed := finishes_of_answered (answering number passed room) noted
      have noTime : now + service.settings.runningTimeout <
          Clock.afterPauses now service.settings.pollPeriod (number + 1) := by
        rcases stops.no_time_left failed with spent | late
        · exact Nat.lt_of_le_of_lt spent (Clock.afterPauses_lt_succ now number positive)
        · exact late
      rcases stops.of_failed failed counts with ⟨rfl, rfl, rfl⟩
      have comes := comesTo_of_follow ran
      rw [Sighting.outcome_ofLooks_concat] at comes
      exact ⟨_, _, rounds, comes, passed,
        Or.inr ⟨passes, rfl, noTime, rounds_of_no_time noTime rounds⟩⟩
    · have holds := finishes_of_answered (answering number passed room) noted
      rcases stops.of_holds holds counts with ⟨rfl, same⟩
      cases same
      exact ⟨_, _, rounds, comesTo_of_follow ran, passed, Or.inl ⟨concludes, rfl⟩⟩
  · intro endless number few settling passed concludes
    have room := hasRoom_of_endless number endless
    rcases Sighting.note_of_concludes concludes with ⟨sighting, noted, rfl⟩
    have holds := finishes_of_answered (answering number passed room) noted
    have boundless : Clock.later now (settlePolicy service.settings).budget = none := endless
    have ran := PollPolicy.run_follow_endless (settlePolicy service.settings)
      (starts_standing answering positive passed room) holds boundless few
    exact comesTo_of_follow ran
  · intro endless number all passed
    have boundless : Clock.later now (settlePolicy service.settings).budget = none := endless
    have starts := starts_standing answering positive passed (hasRoom_of_endless number endless)
    have stuck := PollPolicy.run_follow_endless_eq_none (settlePolicy service.settings) starts
      boundless all
    have hangs : (service.loggedWait id known).run now (states 0) = none := by
      rw [loggedWait, Activity.bind_eq_bind, Activity.run_bind]
      exact congrArg (Option.bind · _) stuck
    rw [awaitSettled_eq_logged, Activity.run_map, hangs]
    rfl

/-! ## Instances

A provider that shows a node pending at the first look and running ever after. -/

def sightOf (looks : Nat) : Node :=
  reachableNode "first" (if looks = 0 then .pending else .running)

def bootingProvider : Provider Nat where
  name := "booting"
  create _ _ := .done (.error unknownCall)
  list _ := .done (.error unknownCall)
  get _ := .perform fun _ looks => (.ok (sightOf looks), looks + 1)
  reboot _ := .done (.error unknownCall)
  destroy _ := .done (.error unknownCall)
  images := .done (.error unknownCall)
  sizes := .done (.error unknownCall)
  locations := .done (.error unknownCall)

def waitingService (timeout period : Nat) : Service Nat Unit :=
  { plainService bootingProvider with
    settings := { runningTimeout := timeout, pollPeriod := period } }

theorem booting_answersInTurn (timeout period : Nat) :
    (waitingService timeout period).AnswersInTurn "first" .pending 0
      (fun number => .ok (sightOf number)) (fun looks => looks) := by
  intro number _ _
  rfl

/-- With a budget of one pause the second look still counts. -/
theorem booting_node_seen_running :
    (Clock.later 0 Duration.second).isSome = true ∧ 0 < Duration.second ∧
    ∃ later, (waitingService Duration.second Duration.second).ComesTo "first" .pending 0 0
      (.running (reachableNode "first" .running))
      [.ok (reachableNode "first" .pending), .ok (reachableNode "first" .running)] later 2 := by
  refine ⟨by decide, by decide, ?_⟩
  rcases (awaitSettled_judges_answers (booting_answersInTurn Duration.second Duration.second)
    (by decide)).1 (by decide) with ⟨number, settling, later, rounds, comes, passed, ended⟩
  have few : number ≤ 1 := rounds
  rcases Nat.le_one_iff_eq_zero_or_eq_one.1 few with rfl | rfl
  · rcases ended with ⟨concludes, -⟩ | ⟨-, -, noTime, -⟩
    · cases concludes with
      | forbidden forbidden => cases forbidden
      | running _ runs => cases runs
      | malformed _ runs => cases runs
      | stopped _ settled => cases settled
    · exact absurd noTime (by decide)
  · rcases ended with ⟨concludes, -⟩ | ⟨passes, -⟩
    · cases concludes with
      | forbidden forbidden => cases forbidden
      | running => exact ⟨later, comes⟩
      | malformed _ _ broken => cases broken
      | stopped _ _ stands => exact absurd rfl stands
    · cases passes with
      | unsettled _ unsettled => cases unsettled

/-- A period of more than thirty years is cut short, so that a budget with room for one look by its
period has room for two. -/
theorem second_look_within_the_period :
    (waitingService (Duration.ofSeconds 946080000) (Duration.ofSeconds 946080001)).AnswersInTurn
      "first" .pending 0 (fun number => .ok (sightOf number)) (fun looks => looks) ∧
    Duration.ofSeconds 946080000 / Duration.ofSeconds 946080001 + 1 = 1 ∧
    (waitingService (Duration.ofSeconds 946080000) (Duration.ofSeconds 946080001)).ComesTo "first"
      .pending 0 0 (.running (reachableNode "first" .running))
      [.ok (reachableNode "first" .pending), .ok (reachableNode "first" .running)]
      (Duration.ofSeconds 946080000) 2 := by
  refine ⟨booting_answersInTurn _ _, by decide, ?_, ?_⟩
  · decide +kernel
  · decide +kernel

end Service

end Fleet
