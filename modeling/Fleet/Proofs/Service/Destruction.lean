import Fleet.Proofs.Service.LiveNodes
import Fleet.Proofs.Service.Sorting
import Fleet.Proofs.Table
import Fleet.Service.Batch

/-!
# The outcome of a destruction accounts for every live node

A destruction lists the nodes of a tag, asks for the end of each one that is live, and lists the tag
again. Every live node has one result, which puts it among the destroyed nodes, the tolerated
failures or the other failures; the second listing then moves the destroyed nodes that are still
live to those left over. No node is in two places, none is missing, and rejected credentials fail
the whole operation.
-/

namespace Fleet

/-- Whether a failed destruction is tolerated. -/
def FailureKind.isTolerated (kind : FailureKind) : Bool :=
  kind == .unsupported || kind == .transient

namespace BatchResults

/-- Whether a destruction is as good as done: it was accepted, or there is nothing to destroy. -/
def isAccepted : Except ProviderFailure Unit → Bool
  | .ok _ => true
  | .error failure => failure.kind == .notFound

/-- The nodes whose results satisfy a condition. -/
def idsWhere (condition : Except ProviderFailure Unit → Bool) (results : BatchResults) :
    List NodeId :=
  (results.filter fun result => condition result.2).map Prod.fst

/-- The failures of some kinds, by node. -/
def failuresWhere (condition : FailureKind → Bool) (results : BatchResults) :
    List (NodeId × ProviderFailure) :=
  results.filterMap fun
    | (_, .ok _) => none
    | (id, .error failure) => if condition failure.kind then some (id, failure) else none

theorem mem_idsWhere_iff
    {condition : Except ProviderFailure Unit → Bool}
    {results : BatchResults}
    {id : NodeId} :
    id ∈ idsWhere condition results ↔
      ∃ result, (id, result) ∈ results ∧ condition result = true := by
  simp [idsWhere]

/-- The failures of a kind are those among the results that are of the kind. -/
theorem mem_failuresWhere_iff
    {condition : FailureKind → Bool}
    {results : BatchResults}
    {id : NodeId}
    {failure : ProviderFailure} :
    (id, failure) ∈ failuresWhere condition results ↔
      (id, .error failure) ∈ results ∧ condition failure.kind = true := by
  simp only [failuresWhere, List.mem_filterMap]
  constructor
  · rintro ⟨⟨other, result⟩, member, same⟩
    cases result with
    | ok _ => cases same
    | error cause =>
      have kept : (if condition cause.kind then some (other, cause) else none) =
          some (id, failure) := same
      split at kept
      · rename_i holds
        cases kept
        exact ⟨member, holds⟩
      · cases kept
  · rintro ⟨member, holds⟩
    exact ⟨(id, .error failure), member, if_pos holds⟩

theorem mem_failures_iff
    {results : BatchResults}
    {failure : ProviderFailure} :
    failure ∈ Results.failures (results.map Prod.snd) ↔
      ∃ id, (id, .error failure) ∈ results := by
  simp [Results.mem_failures_iff]

@[simp]
theorem idsWhere_cons
    (condition : Except ProviderFailure Unit → Bool)
    (id : NodeId)
    (result : Except ProviderFailure Unit)
    (rest : BatchResults) :
    idsWhere condition ((id, result) :: rest) =
      if condition result then id :: idsWhere condition rest else idsWhere condition rest := by
  simp only [idsWhere, List.filter_cons]
  split <;> rfl

@[simp]
theorem failuresWhere_ok_cons
    (condition : FailureKind → Bool)
    (id : NodeId)
    (done : Unit)
    (rest : BatchResults) :
    failuresWhere condition ((id, .ok done) :: rest) = failuresWhere condition rest := rfl

@[simp]
theorem failuresWhere_error_cons
    (condition : FailureKind → Bool)
    (id : NodeId)
    (failure : ProviderFailure)
    (rest : BatchResults) :
    failuresWhere condition ((id, .error failure) :: rest) =
      if condition failure.kind then (id, failure) :: failuresWhere condition rest
      else failuresWhere condition rest := by
  simp only [failuresWhere, List.filterMap_cons]
  split <;> rename_i kept <;> split at kept <;> simp_all

end BatchResults

namespace Service

variable {σ S : Type}

/-! ## Sorting -/

/-- The destructions by what became of them. -/
def sortedDestructions (results : BatchResults) : BatchOutcome :=
  { succeeded := BatchResults.idsWhere BatchResults.isAccepted results
    swallowed := BatchResults.failuresWhere FailureKind.isTolerated results
    failed := BatchResults.failuresWhere (· == .fatal) results }

/-- The outcome with one more result in its place. -/
def placing
    (id : NodeId)
    (result : Except ProviderFailure Unit)
    (outcome : BatchOutcome) :
    BatchOutcome :=
  match result with
  | .ok _ => { outcome with succeeded := id :: outcome.succeeded }
  | .error failure =>
    match failure.kind with
    | .notFound => { outcome with succeeded := id :: outcome.succeeded }
    | .unsupported | .transient =>
      { outcome with swallowed := (id, failure) :: outcome.swallowed }
    | .authorization | .fatal => { outcome with failed := (id, failure) :: outcome.failed }

/-- A result that is no rejection is placed before the rest is sorted. -/
theorem sortDestructions_cons
    (id : NodeId)
    {result : Except ProviderFailure Unit}
    (rest : BatchResults)
    (allowed : ∀ failure, result = .error failure → failure.isAuthorization = false) :
    sortDestructions ((id, result) :: rest) = (sortDestructions rest).map (placing id result) := by
  cases result with
  | ok done => cases later : sortDestructions rest <;> simp [sortDestructions, later] <;> rfl
  | error failure =>
    have accepted := allowed failure rfl
    cases kind : failure.kind with
    | authorization => simp [ProviderFailure.isAuthorization, kind] at accepted
    | notFound | unsupported | transient | fatal =>
      cases later : sortDestructions rest <;>
        simp only [sortDestructions, kind, later, placing, Except.map] <;> rfl

/-- What is sorted begins with the place of the first result. -/
theorem sortedDestructions_cons
    (id : NodeId)
    {result : Except ProviderFailure Unit}
    (rest : BatchResults)
    (allowed : ∀ failure, result = .error failure → failure.isAuthorization = false) :
    sortedDestructions ((id, result) :: rest) = placing id result (sortedDestructions rest) := by
  cases result with
  | ok done => rfl
  | error failure =>
    have accepted := allowed failure rfl
    cases kind : failure.kind with
    | authorization => simp [ProviderFailure.isAuthorization, kind] at accepted
    | notFound | unsupported | transient | fatal =>
      simp [sortedDestructions, placing, kind, BatchResults.isAccepted, FailureKind.isTolerated]

theorem sortDestructions_sortsInto :
    SortsInto .destroyNode Prod.snd sortDestructions sortedDestructions where
  nil := rfl
  rejected := by
    rintro ⟨id, result⟩ rest failure failed rejected
    have kind : failure.kind = .authorization := by
      simpa [ProviderFailure.isAuthorization] using rejected
    have same : result = .error failure := failed
    simp [sortDestructions, same, kind, ServiceError.ofFailure, rejected]
  accepted := by
    rintro ⟨id, result⟩ rest allowed
    exact ⟨placing id result, sortDestructions_cons id rest allowed,
      sortedDestructions_cons id rest allowed⟩

/-- Every node that has a place in an outcome, in no particular order. -/
def places (outcome : BatchOutcome) : List NodeId :=
  outcome.succeeded ++ (outcome.swallowed.map Prod.fst ++ outcome.failed.map Prod.fst)

/-- A result has one place. -/
theorem places_placing
    (id : NodeId)
    (result : Except ProviderFailure Unit)
    (outcome : BatchOutcome) :
    (places (placing id result outcome)).Perm (id :: places outcome) := by
  unfold placing
  split
  · exact List.Perm.refl _
  · split
    · exact List.Perm.refl _
    · exact List.perm_middle
    · exact List.perm_middle
    all_goals
      simp only [places, List.map_cons, ← List.append_assoc]
      exact List.perm_middle

/-- Without rejected credentials every result has one place. -/
theorem sortedDestructions_perm
    {results : BatchResults}
    (accepted : ∀ failure ∈ Results.failures (results.map Prod.snd),
      failure.isAuthorization = false) :
    (places (sortedDestructions results)).Perm (results.map Prod.fst) := by
  induction results with
  | nil => exact List.Perm.refl []
  | cons entry rest inductionHypothesis =>
    rcases entry with ⟨id, result⟩
    have allowed : ∀ failure, result = .error failure → failure.isAuthorization = false := by
      intro failure failed
      exact accepted failure (Results.mem_failures_iff.2 (failed ▸ List.mem_cons_self))
    have later : ∀ failure ∈ Results.failures (rest.map Prod.snd),
        failure.isAuthorization = false := by
      intro failure among
      rw [Results.mem_failures_iff] at among
      exact accepted failure (Results.mem_failures_iff.2 (List.mem_cons_of_mem _ among))
    rw [sortedDestructions_cons id rest allowed]
    exact (places_placing id result _).trans ((inductionHypothesis later).cons id)

/-- A destroyed node is left over when the listing shows it live. -/
theorem mem_survivors_iff
    {destroyed : List NodeId}
    {listed : List Node}
    {id : NodeId} :
    id ∈ survivors destroyed listed ↔
      id ∈ destroyed ∧ ∃ node ∈ listed, node.id = id ∧ node.state ≠ .terminated := by
  simp only [survivors, Table.mem_keys_ofList_iff, List.map_map, List.mem_map, List.mem_filter,
    Bool.and_eq_true, List.contains_iff_mem, Node.isLive, NodeState.isTerminated,
    Bool.not_eq_true', beq_eq_false_iff_ne, Function.comp_apply]
  constructor
  · rintro ⟨node, ⟨member, destroyed, live⟩, rfl⟩
    exact ⟨destroyed, node, member, rfl, live⟩
  · rintro ⟨destroyed, node, member, rfl, live⟩
    exact ⟨node, ⟨member, destroyed, live⟩, rfl⟩

/-- Destroyed nodes without repetition are those that are left over and the others. -/
theorem survivors_perm
    {destroyed : List NodeId}
    (distinct : destroyed.Nodup)
    (listed : List Node) :
    (destroyed.filter (fun id => !(survivors destroyed listed).contains id) ++
      survivors destroyed listed).Perm destroyed := by
  have parts : (destroyed.filter (fun id => !(survivors destroyed listed).contains id) ++
      survivors destroyed listed).Nodup := by
    refine List.nodup_append.2 ⟨distinct.filter _, Table.nodup_keys _, ?_⟩
    rintro id kept _ left rfl
    simp [left] at kept
  apply (List.perm_ext_iff_of_nodup parts distinct).2
  intro id
  simp only [List.mem_append, List.mem_filter, Bool.not_eq_true', List.contains_eq_mem,
    decide_eq_false_iff_not]
  constructor
  · rintro (⟨member, -⟩ | left)
    · exact member
    · exact (mem_survivors_iff.1 left).1
  · intro member
    by_cases left : id ∈ survivors destroyed listed
    · exact Or.inr left
    · exact Or.inl ⟨member, left⟩

/-! ## The course of a destruction -/

/-- The destructions of the live nodes of a listing, side by side. -/
def destroyLive (provider : Provider σ) (listed : List Node) : Activity σ BatchResults :=
  Activity.gathered ((liveIds listed).map fun id => (id, ·) <$> provider.destroy id)

/-- A destruction with the usual batch call, listing by listing. -/
theorem destroyTagged_eq
    {service : Service σ S}
    {tag : String}
    (usual : service.provider.destroyAll tag =
      forLiveNodes (service.provider.list (some tag)) service.provider.destroy) :
    service.destroyTagged tag = (service.provider.list (some tag)).bind fun
      | .error failure => .done (.error (.ofFailure .destroyNodes failure))
      | .ok before => (destroyLive service.provider before).bind fun results =>
        match sortDestructions results with
        | .error error => .done (.error error)
        | .ok outcome => (service.listTagged tag).bind fun answer =>
          .done (answer.map fun after => outcome.leaving (survivors outcome.succeeded after)) := by
  rw [destroyTagged, usual, forLiveNodes]
  simp only [Activity.bind_eq_bind, Activity.bind_assoc]
  congr 1
  funext listing
  cases listing with
  | error failure => rfl
  | ok before =>
    show Activity.bind (Activity.bind (destroyLive service.provider before) _) _ = _
    rw [Activity.bind_assoc]
    congr 1
    funext results
    simp only [Activity.pure_eq_done, Activity.bind]
    cases sortDestructions results with
    | error error => rfl
    | ok outcome =>
      show Activity.bind _ _ = Activity.bind _ _
      congr 1
      funext answer
      cases answer <;> rfl

/-- What an outcome says of the live nodes of the first listing, of the results of their
destructions and of the second listing. -/
structure Settles (before : List Node) (results : BatchResults) (after : List Node)
    (outcome : BatchOutcome) : Prop where
  /-- No node is in two places or in one place twice. -/
  distinct : (outcome.succeeded ++ outcome.unsettled ++ (outcome.swallowed.map Prod.fst ++
    outcome.failed.map Prod.fst)).Nodup
  complete : ∀ id, id ∈ outcome.succeeded ++ outcome.unsettled ++
      (outcome.swallowed.map Prod.fst ++ outcome.failed.map Prod.fst) ↔
    ∃ node ∈ before, node.id = id ∧ node.state ≠ .terminated
  swallowed : ∀ id failure, (id, failure) ∈ outcome.swallowed ↔
    (id, .error failure) ∈ results ∧ (failure.kind = .unsupported ∨ failure.kind = .transient)
  failed : ∀ id failure, (id, failure) ∈ outcome.failed ↔
    (id, .error failure) ∈ results ∧ failure.kind = .fatal
  unsettled : ∀ id, id ∈ outcome.unsettled ↔
    (∃ result, (id, result) ∈ results ∧ BatchResults.isAccepted result = true) ∧
      ∃ node ∈ after, node.id = id ∧ node.state ≠ .terminated
  succeeded : ∀ id, id ∈ outcome.succeeded ↔
    (∃ result, (id, result) ∈ results ∧ BatchResults.isAccepted result = true) ∧
      ∀ node ∈ after, node.id = id → node.state = .terminated

/-- What is sorted says what it should of the batch. The survivors only change their place, so the
names are still those of the first listing. -/
theorem settles_of_sorted
    {before : List Node}
    {results : BatchResults}
    (after : List Node)
    (distinct : (before.map Node.id).Nodup)
    (each : results.map Prod.fst = liveIds before)
    (accepted : ∀ failure ∈ Results.failures (results.map Prod.snd),
      failure.isAuthorization = false) :
    Settles before results after
      ((sortedDestructions results).leaving
        (survivors (sortedDestructions results).succeeded after)) := by
  have places := sortedDestructions_perm accepted
  rw [each] at places
  have liveDistinct : (liveIds before).Nodup :=
    distinct.sublist (List.filter_sublist.map Node.id)
  have sortedDistinct := places.nodup_iff.2 liveDistinct
  have destroyedDistinct := (List.nodup_append.1 sortedDistinct).1
  have moved := (survivors_perm destroyedDistinct after).append_right
    ((sortedDestructions results).swallowed.map Prod.fst ++
      (sortedDestructions results).failed.map Prod.fst)
  have account := moved.trans places
  constructor
  · exact account.nodup_iff.2 liveDistinct
  · intro id
    rw [← mem_liveIds_iff]
    exact account.mem_iff
  · intro id failure
    simp [BatchOutcome.leaving, sortedDestructions, BatchResults.mem_failuresWhere_iff,
      FailureKind.isTolerated]
  · intro id failure
    simp [BatchOutcome.leaving, sortedDestructions, BatchResults.mem_failuresWhere_iff]
  · intro id
    simp only [BatchOutcome.leaving, mem_survivors_iff, sortedDestructions,
      BatchResults.mem_idsWhere_iff]
  · intro id
    simp only [BatchOutcome.leaving, List.mem_filter, Bool.not_eq_true', List.contains_eq_mem,
      decide_eq_false_iff_not, mem_survivors_iff]
    simp only [sortedDestructions, BatchResults.mem_idsWhere_iff]
    constructor
    · rintro ⟨destroyed, gone⟩
      refine ⟨destroyed, ?_⟩
      intro node member same
      by_contra live
      exact gone ⟨destroyed, node, member, same, live⟩
    · rintro ⟨destroyed, gone⟩
      refine ⟨destroyed, ?_⟩
      rintro ⟨-, node, member, same, live⟩
      exact live (gone node member same)

/-- The course of a destruction up to its second listing: a listing, and then the destruction of
every live node, each with its own result. -/
def Destroyed
    (provider : Provider σ)
    (tag : String)
    (now : Nat)
    (state : σ)
    (before : List Node)
    (results : BatchResults)
    (later : Nat)
    (reached : σ) :
    Prop :=
  ∃ middle listed,
    (provider.list (some tag)).run now state = some (.ok before, middle, listed) ∧
    (destroyLive provider before).run middle listed = some (results, later, reached) ∧
    List.Forall₂ (fun id result => result.1 = id ∧ (provider.destroy id).Reaches
      ((destroyLive provider before).moments middle listed) result.2) (liveIds before) results

/-- With the usual batch call, the outcome of a destruction accounts for every node that was live in
the first listing, provided that listings name no node twice; and rejected credentials of a single
destruction fail the whole operation. -/
theorem destroyTagged_accounts_for_live_nodes
    {service : Service σ S}
    {tag : String}
    (usual : service.provider.destroyAll tag =
      forLiveNodes (service.provider.list (some tag)) service.provider.destroy)
    (distinct : ∀ now state listed later reached,
      (service.provider.list (some tag)).run now state = some (.ok listed, later, reached) →
      (listed.map Node.id).Nodup)
    (now : Nat)
    (state : σ) :
    (∀ outcome later reached,
      (service.destroyTagged tag).run now state = some (.ok outcome, later, reached) →
      ∃ before results middle destroyed after,
        Destroyed service.provider tag now state before results middle destroyed ∧
        (service.provider.list (some tag)).run middle destroyed =
          some (.ok after, later, reached) ∧
        Settles before results after outcome) ∧
    (∀ before results later reached,
      Destroyed service.provider tag now state before results later reached →
      (∃ id failure, (id, .error failure) ∈ results ∧ failure.isAuthorization = true) →
      ∃ id failure, (id, .error failure) ∈ results ∧ failure.isAuthorization = true ∧
        (service.destroyTagged tag).run now state =
          some (.error (.authorization .destroyNode failure), later, reached)) := by
  rw [destroyTagged_eq usual, Activity.run_bind]
  constructor
  · intro outcome later reached finished
    rcases Option.bind_eq_some_iff.1 finished with
      ⟨⟨listing, middle, listed⟩, first, proceeded⟩
    cases listing with
    | error failure => simp at proceeded
    | ok before =>
      simp only [Activity.run_bind] at proceeded
      rcases Option.bind_eq_some_iff.1 proceeded with
        ⟨⟨results, last, destroyed⟩, destroying, concluded⟩
      rcases sortDestructions_sortsInto.cases results with
        ⟨failure, -, -, rejection⟩ | ⟨accepted, sorted⟩
      · simp [rejection] at concluded
      · simp only [sorted, Activity.run_bind] at concluded
        rcases Option.bind_eq_some_iff.1 concluded with
          ⟨⟨answer, final, seen⟩, again, ended⟩
        cases answer with
        | error error => simp [Except.map] at ended
        | ok after =>
          cases ended
          rcases Option.bind_eq_some_iff.1 (Activity.run_bind _ _ _ _ ▸ again) with
            ⟨⟨shown, final, seen⟩, second, same⟩
          cases shown with
          | error failure => cases same
          | ok after =>
            cases same
            refine ⟨before, results, last, destroyed, after, ?_, second, ?_⟩
            · exact ⟨middle, listed, first, destroying, callLive_reaches destroying⟩
            · exact settles_of_sorted after (distinct _ _ _ _ _ first)
                (ids_of_callLive destroying) accepted
  · rintro before results later reached ⟨middle, listed, first, destroying, -⟩
      ⟨id, failure, among, refused⟩
    rcases sortDestructions_sortsInto.cases results with
      ⟨rejection, isFailure, rejected, sorted⟩ | ⟨accepted, -⟩
    · rcases BatchResults.mem_failures_iff.1 isFailure with ⟨other, entry⟩
      refine ⟨other, rejection, entry, rejected, ?_⟩
      simp only [first, Option.bind_some, Activity.run_bind, destroying, sorted, Activity.run_done]
    · rw [accepted failure (BatchResults.mem_failures_iff.2 ⟨id, among⟩)] at refused
      cases refused

/-! ## An instance

A batch of two nodes in a world that consists of the state of the first one. The first node is
destroyed; the second one keeps running, because the provider has no time for it. -/

/-- A provider with the two nodes. -/
def pairProvider : Provider NodeState where
  name := "pair"
  create _ _ := .done (.error unknownCall)
  list _ := .observe fun _ state => .ok [plainNode "first" state, plainNode "second" .running]
  get _ := .done (.error unknownCall)
  reboot _ := .done (.error unknownCall)
  destroy id := .perform fun _ state =>
    if id = "first" then (.ok (), .terminated) else (.error busy, state)
  images := .done (.error unknownCall)
  sizes := .done (.error unknownCall)
  locations := .done (.error unknownCall)

/-- The first node is reported as destroyed, and the second one with the failure that was swallowed.
-/
theorem pair_destroyed :
    ∃ before results middle destroyed after,
      Destroyed pairProvider "web" 0 .running before results middle destroyed ∧
      (pairProvider.list (some "web")).run middle destroyed = some (.ok after, 0, .terminated) ∧
      Settles before results after { succeeded := ["first"], swallowed := [("second", busy)] } := by
  have distinct : ∀ now state listed later reached,
      (pairProvider.list (some "web")).run now state = some (.ok listed, later, reached) →
      (listed.map Node.id).Nodup := by
    intro now state listed later reached finished
    cases finished
    show ["first", "second"].Nodup
    decide
  have finished : ((plainService pairProvider).destroyTagged "web").run 0 .running =
      some (.ok { succeeded := ["first"], swallowed := [("second", busy)] }, 0, .terminated) := by
    rfl
  exact (@destroyTagged_accounts_for_live_nodes _ _ (plainService pairProvider) "web" rfl distinct
    0 .running).1 _ _ _ finished

end Service

end Fleet
