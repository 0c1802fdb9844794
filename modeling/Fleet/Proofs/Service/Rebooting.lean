import Fleet.Proofs.Service.LiveNodes
import Fleet.Proofs.Service.Rejection
import Fleet.Proofs.Service.Verdict

/-!
# The outcome of a reboot accounts for every live node

A reboot lists the nodes of a tag, asks for the reboot of each one that is live, and looks at every
node whose reboot was accepted until it has settled. The waits go on side by side, and each is
judged by its own looks. Every live node is in one place of the outcome: back when its looks end
with a running node, left over when they do not, and failed when its reboot was not accepted.
-/

namespace Fleet

namespace Look

/-- The last of some looks shows a node running, in a well-formed record. -/
def EndsRunning (looks : List Look) : Prop :=
  ∃ node, looks.getLast? = some (.ok node) ∧ node.state = .running ∧
    node.checkInvariants = .ok ()

theorem endsRunning_concat_iff
    {looks : List Look}
    {look : Look} :
    EndsRunning (looks ++ [look]) ↔
      ∃ node, look = .ok node ∧ node.state = .running ∧ node.checkInvariants = .ok () := by
  simp [EndsRunning]

/-- As long as looks at a node that was running pass, it may be running again. -/
theorem AllPass.mayBecome_running
    {looks : List Look}
    (passed : AllPass .running looks) :
    (lastSeen .running looks).mayBecome .running = true := by
  induction passed with
  | none => rfl
  | @more looks look _ passes inductionHypothesis =>
    rw [lastSeen_concat]
    cases passes with
    | failed => exact inductionHypothesis
    | @unsettled node _ unsettled =>
      show node.state.mayBecome .running = true
      cases state : node.state with
      | pending => rfl
      | unknown => rfl
      | running => simp [state, NodeState.isSettled] at unsettled
      | terminated => simp [state, NodeState.isSettled] at unsettled
      | error => simp [state, NodeState.isSettled] at unsettled

end Look

open Look

/-- A node that was running settles as running exactly when its looks end so. -/
theorem Verdict.isRunning_iff
    {id : NodeId}
    {looks : List Look}
    {settling : Settling}
    (verdict : Verdict id .running looks settling) :
    settling.isRunning = true ↔ EndsRunning looks := by
  cases verdict with
  | @concluded before look _ passed concludes =>
    rw [endsRunning_concat_iff]
    cases concludes with
    | failed => simp [Settling.isRunning]
    | forbidden forbidden =>
      have running := passed.mayBecome_running
      simp only [Settling.isRunning, Bool.false_eq_true, false_iff]
      rintro ⟨node, same, runs, -⟩
      cases same
      rw [runs, running] at forbidden
      cases forbidden
    | running _ runs wellFormed => simp [Settling.isRunning, runs, wellFormed]
    | malformed _ _ broken => simp [Settling.isRunning, broken]
    | stopped _ _ stands => simp [Settling.isRunning, stands]
  | @expired before look passed =>
    rw [endsRunning_concat_iff]
    cases (allPass_concat_iff.1 passed).2 with
    | failed => simp [Settling.isRunning, remainder]
    | @unsettled node _ unsettled =>
      simp only [Settling.isRunning, remainder, Bool.false_eq_true, false_iff]
      rintro ⟨other, same, runs, -⟩
      cases same
      rw [runs] at unsettled
      cases unsettled
  | blind => simp [Settling.isRunning, EndsRunning]

namespace Service

variable {σ S : Type}

/-- The waits for some rebooted nodes, side by side. -/
def pollAll (service : Service σ S) (ids : List NodeId) :
    Activity σ (List (Settling × List Look)) :=
  Activity.gathered (ids.map fun id => service.loggedWait id .running)

/-- Each of some rebooted nodes is waited for, and its wait comes to something by its own looks. -/
def Polled
    (service : Service σ S)
    (ids : List NodeId)
    (now : Nat)
    (state : σ)
    (polls : List (Settling × List Look))
    (later : Nat)
    (reached : σ) :
    Prop :=
  (service.pollAll ids).run now state = some (polls, later, reached) ∧
    List.Forall₂ (fun id poll => (service.loggedWait id .running).Reaches
      ((service.pollAll ids).moments now state) poll ∧
        Verdict id .running poll.2 poll.1) ids polls

/-- Side by side, each rebooted node is waited for by its own looks. -/
theorem polled_of_run
    {service : Service σ S}
    {ids : List NodeId}
    {now later : Nat}
    {state reached : σ}
    {polls : List (Settling × List Look)}
    (finished : (service.pollAll ids).run now state = some (polls, later, reached)) :
    service.Polled ids now state polls later reached := by
  refine ⟨finished, ?_⟩
  have each := Activity.allReach_of_run_gathered finished
  refine (List.forall₂_map_left_iff.1 each).imp ?_
  rintro id ⟨settling, looks⟩ reaches
  rcases reaches with ⟨part, inside, followed⟩
  exact ⟨⟨part, inside, followed⟩, verdict_of_loggedWait followed⟩

/-! ## Sorting the waits -/

/-- The nodes whose reboot was accepted. -/
def acceptedIds (results : BatchResults) : List NodeId :=
  BatchResults.idsWhere Except.isOk results

/-- The nodes whose waits satisfy a condition. -/
def idsPolled
    (condition : Settling → Bool)
    (ids : List NodeId)
    (polls : List (Settling × List Look)) :
    List NodeId :=
  ((ids.zip polls).filter fun pair => condition pair.2.1).map Prod.fst

theorem mem_idsPolled_iff
    {condition : Settling → Bool}
    {ids : List NodeId}
    {polls : List (Settling × List Look)}
    {id : NodeId} :
    id ∈ idsPolled condition ids polls ↔
      ∃ poll, (id, poll) ∈ ids.zip polls ∧ condition poll.1 = true := by
  simp [idsPolled]

/-- The outcome of a reboot, by the results of the calls and by the waits. -/
def rebootOutcome (results : BatchResults) (polls : List (Settling × List Look)) : BatchOutcome :=
  { succeeded := idsPolled Settling.isRunning (acceptedIds results) polls
    failed := BatchResults.failuresWhere (fun _ => true) results
    unsettled := idsPolled (fun settling => !settling.isRunning) (acceptedIds results) polls }

theorem map_fst_filter_zip
    (condition : Settling → Bool)
    (ids : List NodeId)
    (polls : List (Settling × List Look)) :
    ((ids.zip (polls.map Prod.fst)).filter fun pair => condition pair.2).map Prod.fst =
      idsPolled condition ids polls := by
  simp only [idsPolled, List.zip_map_right, List.filter_map, List.map_map]
  rfl

/-- A reboot with the usual batch call, listing by listing. -/
theorem rebootTagged_eq
    {service : Service σ S}
    {tag : String}
    (usual : service.provider.rebootAll tag =
      forLiveNodes (service.provider.list (some tag)) service.provider.reboot) :
    service.rebootTagged tag = (service.provider.list (some tag)).bind fun
      | .error failure => .done (.error (.ofFailure .rebootNodes failure))
      | .ok before => (callLive service.provider.reboot before).bind fun results =>
        match sortReboots results with
        | .error error => .done (.error error)
        | .ok _ => (fun polls => .ok (rebootOutcome results polls)) <$>
            service.pollAll (acceptedIds results) := by
  rw [rebootTagged, usual, forLiveNodes]
  simp only [Activity.bind_eq_bind, Activity.bind_assoc]
  congr 1
  funext listing
  cases listing with
  | error failure => rfl
  | ok before =>
    show Activity.bind (Activity.bind (callLive service.provider.reboot before) _) _ = _
    rw [Activity.bind_assoc]
    congr 1
    funext results
    simp only [Activity.pure_eq_done, Activity.bind]
    rcases sortReboots_sortsInto.cases results with ⟨failure, -, -, sorted⟩ | ⟨-, sorted⟩
    · simp only [sorted]
    · have members : (acceptedIds results).map (fun id => service.awaitSettled id .running) =
          ((acceptedIds results).map fun id => service.loggedWait id .running).map
            (Prod.fst <$> ·) := by
        rw [List.map_map]
        apply List.map_congr_left
        intro id _
        exact awaitSettled_eq_logged service id .running
      have accepted : BatchResults.idsWhere Except.isOk results = acceptedIds results := rfl
      simp only [sorted, sortedReboots, accepted, members, Activity.gathered_map,
        Activity.bind_map, List.partition_eq_filter_filter]
      show Activity.bind _ _ = Activity.bind (service.pollAll (acceptedIds results)) _
      congr 1
      funext polls
      simp only [Function.comp_def, rebootOutcome, map_fst_filter_zip Settling.isRunning,
        map_fst_filter_zip fun settling => !settling.isRunning]

/-! ## The account -/

/-- What the outcome of a reboot says of the live nodes of the listing, of the results of their
reboots and of the waits for those that were accepted. -/
structure Recovers (before : List Node) (results : BatchResults)
    (polls : List (Settling × List Look)) (outcome : BatchOutcome) : Prop where
  /-- No node is in two places or in one place twice. -/
  distinct : (outcome.succeeded ++ outcome.unsettled ++ outcome.failed.map Prod.fst).Nodup
  complete : ∀ id, id ∈ outcome.succeeded ++ outcome.unsettled ++
    outcome.failed.map Prod.fst ↔
    ∃ node ∈ before, node.id = id ∧ node.state ≠ .terminated
  swallowed : outcome.swallowed = []
  failed : ∀ id failure, (id, failure) ∈ outcome.failed ↔ (id, .error failure) ∈ results
  succeeded : ∀ id, id ∈ outcome.succeeded ↔ (id, .ok ()) ∈ results ∧
    ∃ poll, (id, poll) ∈ (acceptedIds results).zip polls ∧ EndsRunning poll.2
  unsettled : ∀ id, id ∈ outcome.unsettled ↔ (id, .ok ()) ∈ results ∧
    ∃ poll, (id, poll) ∈ (acceptedIds results).zip polls ∧ ¬ EndsRunning poll.2

theorem mem_acceptedIds_iff
    {results : BatchResults}
    {id : NodeId} :
    id ∈ acceptedIds results ↔ (id, .ok ()) ∈ results := by
  rw [acceptedIds, BatchResults.mem_idsWhere_iff]
  constructor
  · rintro ⟨result, member, accepted⟩
    cases result with
    | ok done => exact member
    | error failure => cases accepted
  · intro member
    exact ⟨_, member, rfl⟩

/-- Every result is an accepted reboot or a failed one. -/
theorem sortedReboots_perm (results : BatchResults) :
    (acceptedIds results ++ (BatchResults.failuresWhere (fun _ => true) results).map Prod.fst).Perm
      (results.map Prod.fst) := by
  induction results with
  | nil => exact .refl _
  | cons entry rest inductionHypothesis =>
    rcases entry with ⟨id, result⟩
    cases result with
    | ok done => exact inductionHypothesis.cons id
    | error failure =>
      refine List.Perm.trans ?_ (inductionHypothesis.cons id)
      exact List.perm_middle

/-- Every wait ends with a node back or with one left over. -/
theorem idsPolled_perm
    {ids : List NodeId}
    {polls : List (Settling × List Look)}
    (same : ids.length = polls.length) :
    (idsPolled Settling.isRunning ids polls ++
      idsPolled (fun settling => !settling.isRunning) ids polls).Perm ids := by
  have split := List.filter_append_perm (fun pair : NodeId × Settling × List Look =>
    pair.2.1.isRunning) (ids.zip polls)
  have named := split.map Prod.fst
  rw [List.map_append, List.map_fst_zip (Nat.le_of_eq same)] at named
  exact named

/-- A wait for a rebooted node comes to a running node exactly when its looks end so. -/
theorem isRunning_iff_of_polled
    {service : Service σ S}
    {ids : List NodeId}
    {now later : Nat}
    {state reached : σ}
    {polls : List (Settling × List Look)}
    (polled : service.Polled ids now state polls later reached)
    {id : NodeId}
    {poll : Settling × List Look}
    (member : (id, poll) ∈ ids.zip polls) :
    poll.1.isRunning = true ↔ EndsRunning poll.2 :=
  ((List.forall₂_iff_zip.1 polled.2).2 member).2.isRunning_iff

/-- The places of the accepted nodes, when it is known what the condition means. -/
theorem mem_idsPolled_accepted_iff
    {results : BatchResults}
    {polls : List (Settling × List Look)}
    (condition : Settling → Bool)
    (meaning : List Look → Prop)
    {id : NodeId}
    (means : ∀ poll, (id, poll) ∈ (acceptedIds results).zip polls →
      (condition poll.1 = true ↔ meaning poll.2)) :
    id ∈ idsPolled condition (acceptedIds results) polls ↔ (id, .ok ()) ∈ results ∧
      ∃ poll, (id, poll) ∈ (acceptedIds results).zip polls ∧ meaning poll.2 := by
  rw [mem_idsPolled_iff]
  constructor
  · rintro ⟨poll, member, holds⟩
    exact ⟨mem_acceptedIds_iff.1 (List.of_mem_zip member).1, poll, member,
      (means poll member).1 holds⟩
  · rintro ⟨-, poll, member, holds⟩
    exact ⟨poll, member, (means poll member).2 holds⟩

/-- The outcome says what it should of the nodes that were listed. -/
theorem recovers_rebootOutcome
    {service : Service σ S}
    {before : List Node}
    {results : BatchResults}
    {polls : List (Settling × List Look)}
    {now later : Nat}
    {state reached : σ}
    (distinct : (before.map Node.id).Nodup)
    (each : results.map Prod.fst = liveIds before)
    (polled : service.Polled (acceptedIds results) now state polls later reached) :
    Recovers before results polls (rebootOutcome results polls) := by
  have waits := (idsPolled_perm polled.2.length_eq).append_right
    ((BatchResults.failuresWhere (fun _ => true) results).map Prod.fst)
  have account := waits.trans (sortedReboots_perm results)
  rw [each] at account
  constructor
  · exact account.nodup_iff.2 (distinct.sublist (List.filter_sublist.map Node.id))
  · intro id
    rw [← mem_liveIds_iff]
    exact account.mem_iff
  · rfl
  · intro id failure
    simp [rebootOutcome, BatchResults.mem_failuresWhere_iff]
  · intro id
    exact mem_idsPolled_accepted_iff Settling.isRunning EndsRunning fun _ =>
      isRunning_iff_of_polled polled
  · intro id
    have means : ∀ poll, (id, poll) ∈ (acceptedIds results).zip polls →
        ((!poll.1.isRunning) = true ↔ ¬ EndsRunning poll.2) := by
      intro poll member
      rw [Bool.not_eq_true', ← Bool.not_eq_true, isRunning_iff_of_polled polled member]
    exact mem_idsPolled_accepted_iff (fun settling => !settling.isRunning)
      (fun looks => ¬ EndsRunning looks) means

/-- With the usual batch call, the outcome of a reboot accounts for every node that was live in the
listing, provided that the listing names no node twice; and rejected credentials of a single reboot
fail the whole operation. -/
theorem rebootTagged_accounts_for_live_nodes
    {service : Service σ S}
    {tag : String}
    (usual : service.provider.rebootAll tag =
      forLiveNodes (service.provider.list (some tag)) service.provider.reboot)
    (now : Nat)
    (state : σ)
    (distinct : ∀ listed middle reached,
      (service.provider.list (some tag)).run now state = some (.ok listed, middle, reached) →
      (listed.map Node.id).Nodup) :
    (∀ outcome later reached,
      (service.rebootTagged tag).run now state = some (.ok outcome, later, reached) →
      ∃ before results middle rebooted polls,
        Called service.provider service.provider.reboot tag now state before results middle
          rebooted ∧
        service.Polled (acceptedIds results) middle rebooted polls later reached ∧
        Recovers before results polls outcome) ∧
    (∀ before results later reached,
      Called service.provider service.provider.reboot tag now state before results later reached →
      (∃ id failure, (id, .error failure) ∈ results ∧ failure.isAuthorization = true) →
      ∃ id failure, (id, .error failure) ∈ results ∧ failure.isAuthorization = true ∧
        (service.rebootTagged tag).run now state =
          some (.error (.authorization .rebootNode failure), later, reached)) := by
  rw [rebootTagged_eq usual]
  constructor
  · intro outcome later reached finished
    rcases Activity.exists_of_run_bind finished with ⟨listing, early, listed, first, proceeded⟩
    cases listing with
    | error failure => simp at proceeded
    | ok before =>
      rcases Activity.exists_of_run_bind proceeded with
        ⟨results, middle, rebooted, rebooting, concluded⟩
      rcases sortReboots_sortsInto.cases results with ⟨failure, -, -, sorted⟩ | ⟨-, sorted⟩
      · simp [sorted] at concluded
      · simp only [sorted, Activity.run_map] at concluded
        rcases Option.map_eq_some_iff.1 concluded with ⟨⟨polls, last, final⟩, waited, same⟩
        cases same
        have polled := polled_of_run waited
        refine ⟨before, results, middle, rebooted, polls, ?_, polled, ?_⟩
        · exact ⟨early, listed, first, rebooting, callLive_reaches rebooting⟩
        · exact recovers_rebootOutcome (distinct _ _ _ first) (ids_of_callLive rebooting) polled
  · rintro before results later reached ⟨middle, listed, first, rebooting, -⟩
      ⟨id, failure, among, refused⟩
    rcases sortReboots_sortsInto.cases results with
      ⟨rejection, isFailure, rejected, sorted⟩ | ⟨accepted, -⟩
    · rcases BatchResults.mem_failures_iff.1 isFailure with ⟨other, entry⟩
      refine ⟨other, rejection, entry, rejected, ?_⟩
      rw [Activity.run_bind_of_run first]
      show (Activity.bind (callLive service.provider.reboot before) _).run middle listed = _
      rw [Activity.run_bind_of_run rebooting, sorted]
      rfl
    · rw [accepted failure (BatchResults.mem_failures_iff.2 ⟨id, among⟩)] at refused
      cases refused

/-! ## An instance

Three live nodes and one that is gone. The first node runs again, the second one has failed when it
is looked at, and the reboot of the third one is not accepted. -/

def threesome : List Node :=
  [reachableNode "back" .running, reachableNode "lost" .running, reachableNode "busy" .pending,
    reachableNode "gone" .terminated]

def threesomeProvider : Provider Unit where
  name := "threesome"
  create _ _ := .done (.error unknownCall)
  list _ := .done (.ok threesome)
  get id := .done (.ok (reachableNode id (if id = "back" then .running else .error)))
  reboot id := .done (if id = "busy" then .error busy else .ok ())
  destroy _ := .done (.error unknownCall)
  images := .done (.error unknownCall)
  sizes := .done (.error unknownCall)
  locations := .done (.error unknownCall)

theorem threesome_rebooted :
    ∃ before results middle rebooted polls,
      Called threesomeProvider threesomeProvider.reboot "web" 0 () before results middle
        rebooted ∧
      (plainService threesomeProvider).Polled (acceptedIds results) middle rebooted polls 0 () ∧
      Recovers before results polls
        { succeeded := ["back"], failed := [("busy", busy)], unsettled := ["lost"] } := by
  have distinct : ∀ listed middle reached,
      (threesomeProvider.list (some "web")).run 0 () = some (.ok listed, middle, reached) →
      (listed.map Node.id).Nodup := by
    intro listed middle reached finished
    cases finished
    show ["back", "lost", "busy", "gone"].Nodup
    decide
  have finished : ((plainService threesomeProvider).rebootTagged "web").run 0 () =
      some (.ok { succeeded := ["back"], failed := [("busy", busy)], unsettled := ["lost"] }, 0,
        ()) := by
    rfl
  exact (@rebootTagged_accounts_for_live_nodes _ _ (plainService threesomeProvider) "web" rfl 0 ()
    distinct).1 _ _ _ finished

end Service

end Fleet
