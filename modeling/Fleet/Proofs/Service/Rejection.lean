import Fleet.Proofs.Service.Destruction
import Fleet.Proofs.Service.Looks
import Fleet.Proofs.Service.Report

/-!
# Where rejected credentials end up

A provider call that is made once and is rejected fails the whole operation. A look at a node that
is waited for is not treated so: a rejected look ends the wait at once, but the operation goes on,
and its answer shows the rejection as a failure of that node or only as a node left over. So
rejected credentials reach the caller as such exactly in those runs in which no look is rejected.
-/

namespace Fleet

variable {σ S α : Type}

/-- Whether an answer says that the credentials were rejected. -/
def IsRejection (answer : Except ServiceError α) : Prop :=
  ∃ error, answer = .error error ∧ error.isAuthorization = true

/-- Whether a call of an operation was rejected, be it a look or another one. -/
def FailedCalls.AnyRejected (calls : FailedCalls) : Prop :=
  (∃ failure ∈ calls.direct, failure.isAuthorization = true) ∨
    ∃ look ∈ calls.looks, look.2.isAuthorization = true

/-- Where the results of an operation can show failed provider calls. -/
structure Showing (α : Type) where
  /-- The result gives the failure as what went wrong with a node. -/
  asFailure : α → ProviderFailure → Prop
  /-- The result tells of the failed look at a node. -/
  ofLook : α → NodeId → ProviderFailure → Prop

/-- A report tells of failed looks among its failures. -/
def Showing.report : Showing BatchReport where
  asFailure report failure :=
    .create failure ∈ report.failures ∨ ∃ id, .poll id failure ∈ report.failures
  ofLook report id failure := .poll id failure ∈ report.failures

/-- An outcome tells of failed looks by the nodes left over. -/
def Showing.outcome : Showing BatchOutcome where
  asFailure outcome failure :=
    ∃ id, (id, failure) ∈ outcome.failed ∨ (id, failure) ∈ outcome.swallowed
  ofLook outcome id _ := id ∈ outcome.unsettled

def Showing.nothing : Showing α where
  asFailure _ _ := False
  ofLook _ _ _ := False

/-- What an answer makes of rejected calls. -/
structure RejectionRule (showing : Showing α) (answer : Except ServiceError α)
    (calls : FailedCalls) : Prop where
  direct : IsRejection answer ↔ ∃ failure ∈ calls.direct, failure.isAuthorization = true
  looks : ∀ id failure, (id, failure) ∈ calls.looks → failure.isAuthorization = true →
    ∃ result, answer = .ok result ∧ showing.ofLook result id failure
  shown : ∀ result failure, answer = .ok result → showing.asFailure result failure →
    failure.isAuthorization = true → ∃ id, (id, failure) ∈ calls.looks

/-- Rejected credentials reach the caller exactly when no look is rejected. -/
theorem RejectionRule.travels_iff
    {showing : Showing α}
    {answer : Except ServiceError α}
    {calls : FailedCalls}
    (rule : RejectionRule showing answer calls) :
    (calls.AnyRejected → IsRejection answer) ↔
      ∀ look ∈ calls.looks, look.2.isAuthorization = false := by
  constructor
  · intro travels look member
    by_contra accepted
    have rejected : look.2.isAuthorization = true := by simpa using accepted
    rcases travels (Or.inr ⟨look, member, rejected⟩) with ⟨error, isError, -⟩
    rcases rule.looks look.1 look.2 member rejected with ⟨result, isResult, -⟩
    rw [isError] at isResult
    cases isResult
  · rintro accepted (direct | ⟨look, member, rejected⟩)
    · exact rule.direct.2 direct
    · rw [accepted look member] at rejected
      cases rejected

theorem isRejection_authorization
    (call : ProviderCall)
    (failure : ProviderFailure) :
    IsRejection (.error (.authorization call failure) : Except ServiceError α) :=
  ⟨_, rfl, rfl⟩

theorem isRejection_ofFailure_iff
    (call : ProviderCall)
    (failure : ProviderFailure) :
    IsRejection (.error (.ofFailure call failure) : Except ServiceError α) ↔
      failure.isAuthorization = true := by
  constructor
  · rintro ⟨error, same, rejected⟩
    cases same
    simpa using rejected
  · intro rejected
    exact ⟨_, rfl, by simpa using rejected⟩

theorem not_isRejection_ok (result : α) :
    ¬ IsRejection (.ok result : Except ServiceError α) := by
  rintro ⟨error, same, -⟩
  cases same

/-- An error keeps to the rule when it is a rejection exactly for rejected calls. -/
theorem RejectionRule.of_error
    {showing : Showing α}
    {error : ServiceError}
    {failures : List ProviderFailure}
    (direct : IsRejection (.error error : Except ServiceError α) ↔
      ∃ failure ∈ failures, failure.isAuthorization = true) :
    RejectionRule showing (.error error) { direct := failures } where
  direct := direct
  looks := by simp
  shown := by simp

/-- The error of rejected credentials among calls that an operation goes through. -/
theorem RejectionRule.of_rejected
    {showing : Showing α}
    (call : ProviderCall)
    {failures : List ProviderFailure}
    {failure : ProviderFailure}
    (among : failure ∈ failures)
    (rejected : failure.isAuthorization = true) :
    RejectionRule showing (.error (.authorization call failure)) { direct := failures } :=
  .of_error ⟨fun _ => ⟨failure, among, rejected⟩,
    fun _ => isRejection_authorization call failure⟩

/-- The error of the last call, after calls that were all accepted. -/
theorem RejectionRule.of_failure
    {showing : Showing α}
    (call : ProviderCall)
    (earlier : List ProviderFailure)
    (accepted : ∀ failure ∈ earlier, failure.isAuthorization = false)
    (failure : ProviderFailure) :
    RejectionRule showing (.error (.ofFailure call failure))
      { direct := earlier ++ [failure] } := by
  apply RejectionRule.of_error
  rw [isRejection_ofFailure_iff]
  constructor
  · intro rejected
    exact ⟨failure, by simp, rejected⟩
  · rintro ⟨other, among, rejected⟩
    rcases List.mem_append.1 among with before | last
    · rw [accepted other before] at rejected
      cases rejected
    · exact List.mem_singleton.1 last ▸ rejected

/-- A result after calls that were all accepted, when it shows the rejected looks and no other
rejections. -/
theorem RejectionRule.of_accepted
    {showing : Showing α}
    {result : α}
    {failures : List ProviderFailure}
    {looks : FailedLooks}
    (accepted : ∀ failure ∈ failures, failure.isAuthorization = false)
    (reported : ∀ id failure, (id, failure) ∈ looks → failure.isAuthorization = true →
      showing.ofLook result id failure)
    (shown : ∀ failure, showing.asFailure result failure → failure.isAuthorization = true →
      ∃ id, (id, failure) ∈ looks) :
    RejectionRule showing (.ok result) { direct := failures, looks := looks } where
  direct := by
    constructor
    · intro rejection
      exact absurd rejection (not_isRejection_ok result)
    · rintro ⟨failure, among, rejected⟩
      rw [accepted failure among] at rejected
      cases rejected
  looks id failure member rejected := ⟨result, rfl, reported id failure member rejected⟩
  shown other failure same isShown rejected := by
    cases same
    exact shown failure isShown rejected

/-- An answer that shows nothing, when it is no rejection and no call failed. -/
theorem RejectionRule.of_unfailed
    {answer : Except ServiceError α}
    (unrejected : ¬ IsRejection answer) :
    RejectionRule Showing.nothing answer {} where
  direct := by simp [unrejected]
  looks := by simp
  shown := by simp [Showing.nothing]

namespace Service

/-! ## Results of batches -/

/-- The nodes whose reboot was accepted, and the failed reboots. -/
def sortedReboots (results : BatchResults) : List NodeId × List (NodeId × ProviderFailure) :=
  (BatchResults.idsWhere Except.isOk results, BatchResults.failuresWhere (fun _ => true) results)

/-- The results of reboots are sorted, up to the first rejected one. -/
theorem sortReboots_sortsInto :
    SortsInto .rebootNode Prod.snd sortReboots sortedReboots where
  nil := rfl
  rejected := by
    rintro ⟨id, result⟩ rest failure failed rejected
    have same : result = .error failure := failed
    simp [sortReboots, same, rejected, ServiceError.ofFailure]
  accepted := by
    rintro ⟨id, result⟩ rest allowed
    cases result with
    | ok done =>
      refine ⟨fun sorted => (id :: sorted.1, sorted.2), ?_, rfl⟩
      cases later : sortReboots rest <;> simp only [sortReboots, later] <;> rfl
    | error failure =>
      refine ⟨fun sorted => (sorted.1, (id, failure) :: sorted.2), ?_, rfl⟩
      have accepted : ¬ failure.isAuthorization = true := by simp [allowed failure rfl]
      cases later : sortReboots rest <;> simp only [sortReboots, if_neg accepted, later] <;> rfl

theorem accepted_of_mem_failuresWhere
    {results : BatchResults}
    (condition : FailureKind → Bool)
    {id : NodeId}
    {failure : ProviderFailure}
    (allowed : ∀ failure ∈ Results.failures (results.map Prod.snd),
      failure.isAuthorization = false)
    (member : (id, failure) ∈ BatchResults.failuresWhere condition results) :
    ¬ failure.isAuthorization = true := by
  have entry := (BatchResults.mem_failuresWhere_iff.1 member).1
  simp [allowed failure (BatchResults.mem_failures_iff.2 ⟨id, entry⟩)]

/-! ## Operations -/

/-- How a recorded operation treats rejected credentials: it is the operation when its record is
forgotten, every run of it keeps to the rule, and the caller learns of rejected credentials exactly
in the runs without a rejected look. -/
structure Treats (showing : Showing α) (operation : Activity σ (Except ServiceError α))
    (recorded : Activity σ (Except ServiceError α × FailedCalls)) : Prop where
  same : operation = Prod.fst <$> recorded
  rule : ∀ now state answer calls later reached,
    recorded.run now state = some ((answer, calls), later, reached) →
    RejectionRule showing answer calls
  travels_iff : ∀ now state answer calls later reached,
    recorded.run now state = some ((answer, calls), later, reached) →
    ((calls.AnyRejected → IsRejection answer) ↔
      ∀ look ∈ calls.looks, look.2.isAuthorization = false)

theorem treats_of_rule
    {showing : Showing α}
    {operation : Activity σ (Except ServiceError α)}
    {recorded : Activity σ (Except ServiceError α × FailedCalls)}
    (same : operation = Prod.fst <$> recorded)
    (rule : ∀ now state answer calls later reached,
      recorded.run now state = some ((answer, calls), later, reached) →
      RejectionRule showing answer calls) :
    Treats showing operation recorded where
  same := same
  rule := rule
  travels_iff now state answer calls later reached finished :=
    (rule now state answer calls later reached finished).travels_iff

/-- The report of a batch tells of rejected credentials exactly for rejected looks. -/
theorem rule_of_outcomes
    {service : Service σ S}
    {options : TemplateOptions}
    {creations : List (Except ProviderFailure Node)}
    (accepted : ∀ failure ∈ Results.failures creations, failure.isAuthorization = false)
    {moments : List (Moment σ)}
    {outcomes : List (Except NodeFailure Node × FailedLooks)}
    (reached : Activity.AllReach
      ((Results.values creations).map (service.recordedBringUp options)) moments outcomes) :
    RejectionRule .report (.ok (reportOf creations (outcomes.map Prod.fst)))
      { direct := Results.failures creations, looks := outcomes.flatMap Prod.snd } := by
  apply RejectionRule.of_accepted accepted
  · intro id failure member rejected
    rcases List.mem_flatMap.1 member with ⟨⟨outcome, looks⟩, isOutcome, isLook⟩
    rcases reached.exists_of_mem isOutcome with ⟨node, -, part, -, followed⟩
    have reported := poll_of_rejected_look followed isLook rejected
    exact List.mem_append_right _
      (Results.mem_failures_iff.2 (List.mem_map.2 ⟨_, isOutcome, reported⟩))
  · rintro failure (created | ⟨id, polled⟩) rejected
    · rcases List.mem_append.1 created with refused | later
      · rcases List.mem_map.1 refused with ⟨refusal, among, same⟩
        cases same
        rw [accepted failure among] at rejected
        cases rejected
      · rcases List.mem_map.1 (Results.mem_failures_iff.1 later) with
          ⟨⟨outcome, looks⟩, isOutcome, same⟩
        rcases reached.exists_of_mem isOutcome with ⟨node, -, part, -, followed⟩
        have own : (service.bringUp options node).along part = some (.error (.create failure)) := by
          rw [bringUp_eq_recorded]
          exact (Activity.along_map_iff _ _ _ _).2 ⟨_, followed, same.symm⟩
        exact absurd rfl (ne_create_of_bringUp own failure)
    · rcases List.mem_append.1 polled with refused | later
      · rcases List.mem_map.1 refused with ⟨refusal, -, same⟩
        cases same
      · rcases List.mem_map.1 (Results.mem_failures_iff.1 later) with
          ⟨⟨outcome, looks⟩, isOutcome, same⟩
        cases same
        rcases reached.exists_of_mem isOutcome with ⟨node, -, part, -, followed⟩
        exact ⟨id, List.mem_flatMap.2 ⟨_, isOutcome, look_of_poll followed⟩⟩

/-- The creation of a batch keeps to the rule, and its report tells of rejected looks. -/
theorem runNodes_treats
    (service : Service σ S)
    (tag : String)
    (count : Nat)
    (template : Template) :
    Treats .report (service.runNodes tag count template)
      (service.recordedRun tag count template) := by
  apply treats_of_rule (runNodes_eq_recorded service tag count template)
  intro now state answer calls later reached finished
  rw [recordedRun] at finished
  split at finished
  · cases finished
    apply RejectionRule.of_error
    constructor
    · rintro ⟨error, same, rejected⟩
      cases same
      cases rejected
    · simp
  · rw [Activity.bind_eq_bind, Activity.run_bind] at finished
    rcases Option.bind_eq_some_iff.1 finished with ⟨⟨creations, mid, created⟩, -, proceeded⟩
    rcases sortCreations_cases creations with
      ⟨failure, among, rejected, sorted⟩ | ⟨accepted, sorted⟩
    · simp only [sorted] at proceeded
      cases proceeded
      exact .of_rejected .createNode among rejected
    · simp only [sorted, Activity.bind_eq_bind, Activity.run_bind, sortResults_eq] at proceeded
      rcases Option.bind_eq_some_iff.1 proceeded with
        ⟨⟨outcomes, last, final⟩, brought, ended⟩
      cases ended
      exact rule_of_outcomes accepted (Activity.allReach_of_run_gathered brought)

/-- The reboot of a batch keeps to the rule, and leaves over the nodes of rejected looks. -/
theorem rebootTagged_treats
    (service : Service σ S)
    (tag : String) :
    Treats .outcome (service.rebootTagged tag) (service.recordedReboot tag) := by
  apply treats_of_rule (rebootTagged_eq_recorded service tag)
  intro now state answer calls later reached finished
  rw [recordedReboot, Activity.bind_eq_bind, Activity.run_bind] at finished
  rcases Option.bind_eq_some_iff.1 finished with ⟨⟨called, mid, rebooted⟩, -, proceeded⟩
  cases called with
  | error failure =>
    cases proceeded
    exact .of_failure .rebootNodes [] (by simp) failure
  | ok results =>
    rcases sortReboots_sortsInto.cases results with
      ⟨failure, among, rejected, sorted⟩ | ⟨allowed, sorted⟩
    · simp only [sorted] at proceeded
      cases proceeded
      exact .of_rejected .rebootNode among rejected
    · simp only [sorted, Activity.bind_eq_bind, Activity.run_bind] at proceeded
      rcases Option.bind_eq_some_iff.1 proceeded with ⟨⟨waits, last, final⟩, waited, ended⟩
      cases ended
      apply RejectionRule.of_accepted allowed
      · intro id failure member rejected
        rcases List.mem_flatMap.1 member with ⟨⟨settling, looks⟩, isWait, isLook⟩
        rcases (Activity.allReach_of_run_gathered waited).exists_of_mem isWait with
          ⟨other, place, part, -, followed⟩
        rcases failed_of_rejected_look followed isLook rejected with ⟨rfl, rfl⟩
        have settled : (id, Settling.failed id failure) ∈
            (sortedReboots results).1.zip (waits.map Prod.fst) := by
          rw [List.zip_map_right]
          exact List.mem_map.2 ⟨_, place, rfl⟩
        simp only [Showing.outcome, List.partition_eq_filter_filter, List.mem_map, List.mem_filter]
        exact ⟨_, ⟨settled, rfl⟩, rfl⟩
      · rintro failure ⟨id, isFailed | isSwallowed⟩ rejected
        · exact absurd rejected (accepted_of_mem_failuresWhere (fun _ => true) allowed isFailed)
        · cases isSwallowed

/-- The destruction of a batch keeps to the rule. It waits for nothing, so its caller learns of
every rejection. -/
theorem destroyTagged_treats
    (service : Service σ S)
    (tag : String) :
    Treats .outcome (service.destroyTagged tag) (service.recordedDestroy tag) := by
  apply treats_of_rule (destroyTagged_eq_recorded service tag)
  intro now state answer calls later reached finished
  rw [recordedDestroy, Activity.bind_eq_bind, Activity.run_bind] at finished
  rcases Option.bind_eq_some_iff.1 finished with ⟨⟨called, mid, destroyed⟩, -, proceeded⟩
  cases called with
  | error failure =>
    cases proceeded
    exact .of_failure .destroyNodes [] (by simp) failure
  | ok results =>
    rcases sortDestructions_sortsInto.cases results with
      ⟨failure, among, rejected, sorted⟩ | ⟨allowed, sorted⟩
    · simp only [sorted] at proceeded
      cases proceeded
      exact .of_rejected .destroyNode among rejected
    · simp only [sorted, Activity.bind_eq_bind, Activity.run_bind] at proceeded
      rcases Option.bind_eq_some_iff.1 proceeded with ⟨⟨listing, last, final⟩, -, ended⟩
      cases listing with
      | error failure =>
        cases ended
        exact .of_failure .listNodes _ allowed failure
      | ok listed =>
        cases ended
        apply RejectionRule.of_accepted allowed
        · simp
        · rintro failure ⟨id, isFailed | isSwallowed⟩ rejected
          · exact absurd rejected
              (accepted_of_mem_failuresWhere (· == .fatal) allowed isFailed)
          · exact absurd rejected
              (accepted_of_mem_failuresWhere FailureKind.isTolerated allowed isSwallowed)

/-- A single call keeps to the rule. -/
theorem recordedCall_treats
    {β : Type}
    (call : ProviderCall)
    (activity : Activity σ (Except ProviderFailure β))
    {complete : β → Except ServiceError α}
    (completed : ∀ value, ¬ IsRejection (complete value)) :
    Treats .nothing ((calling call activity).bind fun answer => .done (answer.bind complete))
      (recordedCall call activity complete) := by
  apply treats_of_rule (map_recordedCall call activity complete).symm
  intro now state answer calls later reached finished
  rw [recordedCall, Activity.bind_eq_bind, Activity.run_bind] at finished
  rcases Option.bind_eq_some_iff.1 finished with ⟨⟨called, mid, final⟩, -, ended⟩
  cases ended
  cases called with
  | error failure => exact .of_failure call [] (by simp) failure
  | ok value => exact .of_unfailed (completed value)

theorem calling_treats
    (call : ProviderCall)
    (activity : Activity σ (Except ProviderFailure α)) :
    Treats .nothing (calling call activity) (recordedCall call activity .ok) := by
  have completed := recordedCall_treats call activity not_isRejection_ok
  rw [calling_eq_recorded, map_recordedCall]
  exact completed

/-- A record that contradicts an earlier one is no rejection of credentials. -/
theorem not_isRejection_checkFresh (known fresh : Node) :
    ¬ IsRejection (checkFresh known fresh) := by
  rintro ⟨error, same, rejected⟩
  simp only [checkFresh] at same
  split at same
  · cases same
    cases rejected
  · split at same
    · cases same
      cases rejected
    · split at same
      · cases same
        cases rejected
      · split at same
        · cases same
          cases rejected
        · split at same
          · cases same
          · cases same
            cases rejected

theorem not_isRejection_catalogOf (offers : List Image × List Size × List Location) :
    ¬ IsRejection (catalogOf offers) := by
  rintro ⟨error, same, rejected⟩
  simp only [catalogOf] at same
  split at same
  · cases same
    cases rejected
  · cases same

/-- The failed listing that ends a load of the catalog is its error. -/
theorem rule_of_recordedFetch
    {service : Service σ S}
    {now later : Nat}
    {state reached : σ}
    {answer : Except ServiceError Catalog}
    {calls : FailedCalls}
    (finished : service.recordedFetch.run now state = some ((answer, calls), later, reached)) :
    RejectionRule .nothing answer calls := by
  rw [recordedFetch, Activity.bind_eq_bind, Activity.run_bind] at finished
  rcases Option.bind_eq_some_iff.1 finished with ⟨⟨offers, mid, listed⟩, -, ended⟩
  cases offers with
  | error named =>
    cases ended
    exact .of_failure named.1 [] (by simp) named.2
  | ok offers =>
    cases ended
    exact .of_unfailed (not_isRejection_catalogOf offers)

/-- The catalog keeps to the rule, whether or not it has to be loaded. -/
theorem catalog_treats (service : Service σ S) :
    Treats .nothing service.catalog service.recordedCatalog := by
  apply treats_of_rule (catalog_eq_recorded service)
  intro now state answer calls later reached finished
  rw [recordedCatalog, Activity.bind_eq_bind, Activity.run_bind] at finished
  rcases Option.bind_eq_some_iff.1 finished with ⟨⟨served, mid, same⟩, -, proceeded⟩
  cases served with
  | some catalog =>
    cases proceeded
    exact .of_unfailed (not_isRejection_ok catalog)
  | none =>
    simp only [Activity.bind_eq_bind, Activity.run_bind] at proceeded
    rcases Option.bind_eq_some_iff.1 proceeded with
      ⟨⟨⟨loaded, failed⟩, last, final⟩, fetched, ended⟩
    have rule := rule_of_recordedFetch fetched
    cases loaded with
    | error error =>
      cases ended
      exact rule
    | ok catalog =>
      cases ended
      exact rule

/-- Every operation returns the rejection of its calls, those of its looks excepted: a rejected look
is a failure of its node in the report of a batch, and a node left over in the outcome of a reboot.
-/
theorem rejections_travel_except_from_looks (service : Service σ S) :
    (∀ tag count template, Treats .report (service.runNodes tag count template)
      (service.recordedRun tag count template)) ∧
    (∀ tag, Treats .outcome (service.rebootTagged tag) (service.recordedReboot tag)) ∧
    (∀ tag, Treats .outcome (service.destroyTagged tag) (service.recordedDestroy tag)) ∧
    Treats .nothing service.listAll
      (recordedCall .listNodes (service.provider.list none) .ok) ∧
    (∀ tag, Treats .nothing (service.listTagged tag)
      (recordedCall .listNodes (service.provider.list (some tag)) .ok)) ∧
    (∀ condition, Treats .nothing (service.listMatching condition)
      (recordedCall .listNodes (service.provider.list none) fun nodes =>
        .ok (nodes.filter condition))) ∧
    (∀ known, Treats .nothing (service.inspect known)
      (recordedCall .getNode (service.provider.get known.id) (checkFresh known))) ∧
    Treats .nothing service.catalog service.recordedCatalog := by
  refine ⟨runNodes_treats service, rebootTagged_treats service, destroyTagged_treats service,
    ?_, ?_, ?_, ?_, catalog_treats service⟩
  · exact calling_treats .listNodes (service.provider.list none)
  · intro tag
    exact calling_treats .listNodes (service.provider.list (some tag))
  · intro condition
    exact recordedCall_treats .listNodes (service.provider.list none)
      fun nodes => not_isRejection_ok (nodes.filter condition)
  · intro known
    exact recordedCall_treats .getNode (service.provider.get known.id)
      (not_isRejection_checkFresh known)

/-! ## An instance

Credentials that are revoked between the creation of a node and the first look at it. -/

def revoked : ProviderFailure := { kind := .authorization, message := "revoked" }

def revokedProvider : Provider Unit where
  name := "revoked"
  create _ _ := .done (.ok (plainNode "first" .pending))
  list _ := .done (.error revoked)
  get _ := .done (.error revoked)
  reboot _ := .done (.error revoked)
  destroy _ := .done (.error revoked)
  images := .done (.error revoked)
  sizes := .done (.error revoked)
  locations := .done (.error revoked)

def plainTemplate : Template where
  image :=
    { id := "image", name := "Ubuntu", family := .ubuntu, systemDescription := "Ubuntu"
      architecture := "x86_64", version := "1", location := none }
  size := { id := "size", cores := 1, memory := 1, disk := 1, architectures := [] }
  location := .root "zone" "Zone"
  options := {}

theorem revoked_look_does_not_travel :
    ((plainService revokedProvider).recordedRun "web" 1 plainTemplate).run 0 () =
      some ((.ok { nodes := [], failures := [.poll "first" revoked] },
        { looks := [("first", revoked)] }), 0, ()) := by
  have noNodes : Node.sortById [] = [] := List.mergeSort_nil
  rw [← noNodes]
  rfl

end Service

end Fleet
