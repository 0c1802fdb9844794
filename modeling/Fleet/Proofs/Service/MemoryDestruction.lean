import Fleet.Proofs.Memory.Demolition
import Fleet.Proofs.Service.MemoryBatch

/-!
# Destructions on an account in memory

A destruction of the nodes of a tag polls each of them twice, ends those that no arrangement
protects, and touches nothing else. What it reports depends only on which nodes were live before and
on the arrangements, so a second destruction reports the protected nodes in the same places again
and ends no further one.
-/

namespace Fleet

namespace Service

open Memory (Account AccountError)

variable {σ S : Type}

/-- The live nodes of a listing are the listed nodes that live. -/
theorem liveIds_pollView
    {account : Account}
    (numbered : account.Numbered)
    (ids : List NodeId) :
    liveIds (ids.filterMap account.pollView) = ids.filter account.lives := by
  unfold liveIds
  induction ids with
  | nil => rfl
  | cons id rest inductionHypothesis =>
    cases found : account.nodes.find? id with
    | none =>
      have gone : account.lives id = false := by
        simp [Account.lives, found]
      have unseen : account.pollView id = none := by
        rw [Account.pollView, found]
        rfl
      rw [List.filterMap_cons_none unseen, List.filter_cons, gone, inductionHypothesis]
      rfl
    | some node =>
      have name : (Memory.afterPoll node).record.id = id := by
        rw [(Memory.continues_afterPoll node).id_eq]
        exact numbered.named id node found
      have same : (account.shown (Memory.afterPoll node)).isLive = account.lives id := by
        rw [Bool.eq_iff_iff, Account.lives_of_found found]
        simp [Node.isLive, NodeState.isTerminated, Memory.afterPoll_terminated_iff]
      have seen : account.pollView id = some (account.shown (Memory.afterPoll node)) := by
        rw [Account.pollView, found]
        rfl
      rw [List.filterMap_cons_some seen, List.filter_cons, List.filter_cons, same]
      split
      · rw [List.map_cons, inductionHypothesis, Account.id_shown, name]
      · exact inductionHypothesis

/-! ## The report -/

/-- The answer of an account to the destruction of a node, as the service sees it. -/
def verdictOn (account : Account) (id : NodeId) : Except ProviderFailure Unit :=
  (account.verdict id).mapError AccountError.toFailure

/-- The results of the destructions of nodes. -/
def verdicts (account : Account) (ids : List NodeId) : BatchResults :=
  ids.map fun id => (id, verdictOn account id)

/-- What the destruction of live nodes reports: the nodes that nothing protects are destroyed, the
failures are those of the arrangements, and the other protected nodes are left over. -/
def demolition (account : Account) (live : List NodeId) : BatchOutcome where
  succeeded := live.filter fun id => !account.protects id
  swallowed := BatchResults.failuresWhere FailureKind.isTolerated (verdicts account live)
  failed := BatchResults.failuresWhere (· == .fatal) (verdicts account live)
  unsettled := live.filter fun id =>
    account.protects id && BatchResults.isAccepted (verdictOn account id)

theorem verdicts_of_same
    {before after : Account}
    (same : Account.SameButNodes before after) :
    verdicts after = verdicts before := by
  unfold verdicts verdictOn
  rw [same.verdict]

theorem demolition_of_same
    {before after : Account}
    (same : Account.SameButNodes before after) :
    demolition after = demolition before := by
  unfold demolition
  rw [verdicts_of_same same, same.protects]
  unfold verdictOn
  rw [same.verdict]

theorem isAccepted_of_not_protects
    {account : Account}
    {id : NodeId}
    (bare : account.protects id = false) :
    BatchResults.isAccepted (verdictOn account id) = true := by
  rw [verdictOn, Account.verdict_of_not_protects bare]
  rfl

theorem idsWhere_verdicts
    (condition : Except ProviderFailure Unit → Bool)
    (account : Account)
    (ids : List NodeId) :
    BatchResults.idsWhere condition (verdicts account ids) =
      ids.filter fun id => condition (verdictOn account id) := by
  rw [BatchResults.idsWhere, verdicts, List.filter_map, List.map_map]
  exact List.map_id _

/-- Only protected nodes fail to be destroyed. -/
theorem failuresWhere_verdicts_protected
    (condition : FailureKind → Bool)
    (account : Account)
    (ids : List NodeId) :
    BatchResults.failuresWhere condition (verdicts account (ids.filter account.protects)) =
      BatchResults.failuresWhere condition (verdicts account ids) := by
  induction ids with
  | nil => rfl
  | cons id rest inductionHypothesis =>
    cases kept : account.protects id with
    | true =>
      rw [List.filter_cons_of_pos kept]
      unfold verdicts BatchResults.failuresWhere at inductionHypothesis ⊢
      rw [List.map_cons, List.map_cons, List.filterMap_cons, List.filterMap_cons,
        inductionHypothesis]
    | false =>
      have accepted : verdictOn account id = .ok () := by
        rw [verdictOn, Account.verdict_of_not_protects kept]
        rfl
      rw [List.filter_cons_of_neg (by simp [kept]), inductionHypothesis]
      show _ = BatchResults.failuresWhere condition
        ((id, verdictOn account id) :: verdicts account rest)
      rw [accepted, BatchResults.failuresWhere_ok_cons]

/-- A destruction of the nodes that are left over reports them in the same places. -/
theorem demolition_protected
    (account : Account)
    (live : List NodeId) :
    demolition account (live.filter account.protects) =
      { demolition account live with succeeded := [] } := by
  unfold demolition
  rw [failuresWhere_verdicts_protected, failuresWhere_verdicts_protected, List.filter_filter,
    List.filter_filter]
  congr 1
  · apply List.filter_eq_nil_iff.2
    intro id _
    cases account.protects id <;> simp
  · apply List.filter_congr
    intro id _
    cases account.protects id <;> simp

/-- The sorted verdicts, less what the second listing shows live, make the report. -/
theorem leaving_survivors
    {account : Account}
    {live : List NodeId}
    {after : List Node}
    (ascending : live.Pairwise fun first second => first < second)
    (left : ∀ id ∈ live, id ∈ liveIds after ↔ account.protects id = true) :
    (sortedDestructions (verdicts account live)).leaving
        (survivors (sortedDestructions (verdicts account live)).succeeded after) =
      demolition account live := by
  have accepted := idsWhere_verdicts BatchResults.isAccepted account live
  have remaining : survivors (sortedDestructions (verdicts account live)).succeeded after =
      (demolition account live).unsettled := by
    apply Table.keys_eq_of_mem_iff
    · exact ascending.filter _
    · intro id
      change id ∈ survivors _ _ ↔ _
      rw [mem_survivors_iff, ← mem_liveIds_iff]
      show id ∈ BatchResults.idsWhere _ _ ∧ _ ↔ id ∈ live.filter _
      rw [accepted, List.mem_filter, List.mem_filter, Bool.and_eq_true]
      constructor
      · rintro ⟨⟨member, good⟩, alive⟩
        exact ⟨member, (left id member).1 alive, good⟩
      · rintro ⟨member, kept, good⟩
        exact ⟨⟨member, good⟩, (left id member).2 kept⟩
  rw [remaining]
  unfold BatchOutcome.leaving
  congr 1
  show (BatchResults.idsWhere _ _).filter _ = live.filter _
  rw [accepted, List.filter_filter]
  apply List.filter_congr
  intro id member
  cases kept : account.protects id with
  | true =>
    simp [demolition, kept, member]
  | false =>
    simp [demolition, kept, isAccepted_of_not_protects kept]

/-! ## The course -/

/-- The failures of an account reject no credentials when none of its faults does. -/
theorem accepted_verdicts
    {account : Account}
    (trusted : ∀ id, account.destroyFaults.find? id ≠ some .authorization)
    (ids : List NodeId) :
    ∀ failure ∈ Results.failures ((verdicts account ids).map Prod.snd),
      failure.isAuthorization = false := by
  intro failure among
  rcases BatchResults.mem_failures_iff.1 among with ⟨id, answer⟩
  rcases List.mem_map.1 answer with ⟨other, _, same⟩
  have given : verdictOn account other = .error failure := congrArg Prod.snd same
  unfold verdictOn Account.verdict at given
  split at given
  · next kind fault =>
    cases given
    have allowed := trusted other
    rw [fault] at allowed
    simpa [ProviderFailure.isAuthorization, AccountError.toFailure, AccountError.kind] using allowed
  · cases given

section Course

variable {place : Part σ Account} {client : Memory.Client} {whole : σ} {account : Account}
  (lawful : place.Lawful) (viewed : place.view whole = account)
  (admitted : account.admits client = true)

include lawful viewed admitted

theorem run_list
    (tag : Option String)
    (now : Nat) :
    ∃ reached,
      ((Memory.provider place client).list tag).run now whole =
        some (.ok ((account.listed tag).filterMap account.pollView), now, reached) ∧
      place.view reached = (account.listed tag).foldl Account.polling account := by
  subst viewed
  refine ⟨_, ?_, lawful.view_update _ whole⟩
  show (Memory.operating place client (Account.list tag)).run now whole = _
  rw [Memory.run_operating _ now admitted, Account.list_eq]
  rfl

/-- Live nodes are destroyed as their verdicts say, and nothing else changes. -/
theorem run_destroyLive
    {listed : List Node}
    (distinct : (liveIds listed).Nodup)
    (now : Nat)
    (held : ∀ id ∈ liveIds listed, ∃ node, account.nodes.find? id = some node) :
    ∃ reached,
      (destroyLive (Memory.provider place client) listed).run now whole =
        some (verdicts account (liveIds listed), now, reached) ∧
      Account.Alters (liveIds listed) account.razed account (place.view reached) := by
  subst viewed
  rcases Account.inTurn_destroy lawful distinct now admitted held with ⟨answers, asked⟩
  refine ⟨_, ?_, asked⟩
  have actions : (liveIds listed).map (fun id =>
      (id, ·) <$> (Memory.provider place client).destroy id) =
        ((liveIds listed).map fun id (_ : Nat) (whole : σ) =>
          ((id, (Account.authorized client (Account.destroy id) (place.view whole)).1.mapError
              AccountError.toFailure),
            place.update (Account.authorized client (Account.destroy id) (place.view whole)).2
              whole)).map Activity.perform := by
    rw [List.map_map]
    rfl
  rw [destroyLive, actions, Activity.run_gathered_perform, answers]
  rfl

/-- A destruction reports as its account arranges, and ends the nodes of its tag that nothing
protects. -/
theorem run_destroyTagged
    {service : Service σ S}
    (drives : service.provider = Memory.provider place client)
    (numbered : account.Numbered)
    (trusted : ∀ id, account.destroyFaults.find? id ≠ some .authorization)
    (tag : String)
    (now : Nat) :
    ∃ reached,
      (service.destroyTagged tag).run now whole =
        some (.ok (demolition account ((account.listed (some tag)).filter account.lives)), now,
          reached) ∧
      Account.Alters (account.listed (some tag)) account.demolished account
        (place.view reached) := by
  have distinct := account.nodup_listed (some tag)
  have alive := liveIds_pollView numbered (account.listed (some tag))
  have chosen : ∀ id, id ∈ (account.listed (some tag)).filter account.lives ↔
      id ∈ account.listed (some tag) ∧ account.lives id = true := fun _ => List.mem_filter
  rcases run_list lawful viewed admitted (some tag) now with ⟨polledWhole, listing, viewPolled⟩
  have polls := Account.Alters.foldl_polling distinct account
  rw [← viewPolled] at polls
  have held : ∀ id ∈ liveIds ((account.listed (some tag)).filterMap account.pollView),
      ∃ node, (place.view polledWhole).nodes.find? id = some node := by
    intro id member
    rw [alive, chosen, numbered.mem_listed_tag_iff] at member
    rcases member with ⟨⟨node, found, tagged⟩, _⟩
    refine ⟨Memory.afterPoll node, ?_⟩
    rw [polls.find?_of_mem ((numbered.mem_listed_tag_iff tag id).2 ⟨node, found, tagged⟩),
      found]
    rfl
  rcases run_destroyLive lawful rfl ((polls.others.admits client).trans admitted)
    (alive ▸ distinct.filter _) now held with ⟨askedWhole, destroying, asks⟩
  rw [alive, verdicts_of_same polls.others] at destroying
  rw [alive] at asks
  have same := polls.others.trans asks.others
  have still : (place.view askedWhole).Numbered :=
    (numbered.revised (polls.revises fun _ => Memory.continues_afterPoll)).revised
      (asks.revises (Account.continues_razed _))
  rcases run_list lawful rfl ((same.admits client).trans admitted) (some tag) now with
    ⟨reached, again, viewReached⟩
  rw [same.listed] at again viewReached
  have left : ∀ id ∈ (account.listed (some tag)).filter account.lives,
      id ∈ liveIds ((account.listed (some tag)).filterMap (place.view askedWhole).pollView) ↔
        account.protects id = true := by
    intro id member
    rw [liveIds_pollView still, List.mem_filter,
      Account.lives_of_razed polls chosen asks member]
    exact and_iff_right ((chosen id).1 member).1
  refine ⟨reached, ?_, ?_⟩
  · rcases sortDestructions_sortsInto.cases
        (verdicts account ((account.listed (some tag)).filter account.lives)) with
      ⟨failure, among, rejected, _⟩ | ⟨_, sorted⟩
    · rw [accepted_verdicts trusted _ failure among] at rejected
      cases rejected
    · rw [destroyTagged_eq (drives ▸ rfl)]
      simp only [drives, Activity.run_bind, listing, Option.bind_some, destroying, sorted,
        listTagged, calling, Activity.bind_eq_bind, again]
      rw [← leaving_survivors ((account.ascending_listed (some tag)).filter _) left]
      rfl
  · rw [viewReached]
    exact Account.alters_demolished polls chosen asks distinct

end Course

/-! ## Once and again -/

/-- A destruction on a reachable account whose arranged faults reject no credentials ends every node
of its tag that no arrangement protects, and leaves the nodes of other tags as they are. When it is
repeated it ends no further node, destroys nothing, and reports every failure and every node left
over again. -/
theorem destroyTagged_is_idempotent
    {place : Part σ Account}
    {client : Memory.Client}
    {service : Service σ S}
    (drives : service.provider = Memory.provider place client)
    (lawful : place.Lawful)
    {state : σ}
    (reachable : (place.view state).Reachable)
    (admitted : (place.view state).admits client = true)
    (trusted : ∀ id, (place.view state).destroyFaults.find? id ≠ some .authorization)
    (tag : String)
    (now : Nat) :
    ∃ outcome reached,
      (service.destroyTagged tag).run now state = some (.ok outcome, now, reached) ∧
      (∀ id node, (place.view state).nodes.find? id = some node →
        ∃ left, (place.view reached).nodes.find? id = some left ∧
          (node.record.tag ≠ tag → left = node) ∧
          (node.record.tag = tag → (place.view state).destroyFaults.find? id = none →
            (place.view state).lingering.contains id = false →
            left.record.state = .terminated)) ∧
      ∀ later, ∃ last,
        (service.destroyTagged tag).run later reached =
          some (.ok { outcome with succeeded := [] }, later, last) ∧
        ∀ id node, (place.view reached).nodes.find? id = some node →
          ∃ left, (place.view last).nodes.find? id = some left ∧
            (left.record.state = .terminated ↔ node.record.state = .terminated) := by
  have numbered := reachable.numbered
  rcases run_destroyTagged lawful rfl admitted drives numbered trusted tag now with
    ⟨reached, finished, changed⟩
  refine ⟨_, reached, finished, ?_, ?_⟩
  · intro id node found
    exact Account.demolished_by_tag numbered changed found
  · intro later
    have admittedStill := (changed.others.admits client).trans admitted
    have trustedStill :
        ∀ id, (place.view reached).destroyFaults.find? id ≠ some .authorization := by
      rw [changed.others]
      exact trusted
    have numberedStill := numbered.revised (changed.revises (Account.continues_demolished _))
    rcases run_destroyTagged lawful rfl admittedStill drives numberedStill trustedStill tag later
      with ⟨last, repeated, again⟩
    rw [changed.others.listed] at repeated again
    refine ⟨last, ?_, ?_⟩
    · rw [repeated, Account.lives_of_demolished numbered changed,
        demolition_of_same changed.others,
        demolition_protected]
    · intro id node found
      exact Account.demolished_again changed again found

/-- An account with three nodes of one tag and one of another. The second node refuses to be
destroyed for now, and the third one stays although its destruction is accepted. -/
def obstinate : Account :=
  (arranged 2 0 0).after
    [.request tenant (.create "web" zoneTemplate), .request tenant (.create "web" zoneTemplate),
      .request tenant (.create "web" zoneTemplate), .request tenant (.create "db" zoneTemplate),
      .arrangement (.destroyFault "stub-2" .transient), .arrangement (.lingering "stub-3")]

def delayed : ProviderFailure :=
  { kind := .transient, message := "injected Transient failure during destroy" }

/-- What the first destruction of the three nodes reports. -/
def obstinateOutcome : BatchOutcome where
  succeeded := ["stub-1"]
  swallowed := [("stub-2", delayed)]
  unsettled := ["stub-3"]

/-- The first node is destroyed, and the other two are reported both times. -/
theorem obstinate_nodes_reported_again :
    ∃ reached last,
      ((tenantService 0 0).destroyTagged "web").run 0 obstinate =
        some (.ok obstinateOutcome, 0, reached) ∧
      reached.nodes.find? "stub-4" = obstinate.nodes.find? "stub-4" ∧
      ((tenantService 0 0).destroyTagged "web").run 0 reached =
        some (.ok { obstinateOutcome with succeeded := [] }, 0, last) := by
  have reachable : obstinate.Reachable := Account.Reachable.after ⟨_, _, _, _, _, rfl⟩ _
  have trusted : ∀ id, obstinate.destroyFaults.find? id ≠ some .authorization := by
    intro id fault
    have entry := (Table.find?_eq_some_iff _ _ _).1 fault
    have only : obstinate.destroyFaults.entries = [("stub-2", .transient)] := by decide +kernel
    rw [only] at entry
    simp at entry
  rcases @destroyTagged_is_idempotent Account Unit (Part.self Account) tenant
    (tenantService 0 0) rfl (Part.lawful_self Account) obstinate reachable rfl trusted "web" 0 with
    ⟨outcome, reached, finished, nodes, again⟩
  rcases again 0 with ⟨last, repeated, _⟩
  have report : (((tenantService 0 0).destroyTagged "web").run 0 obstinate).map Prod.fst =
      some (.ok obstinateOutcome) := by
    decide +kernel
  rw [finished] at report
  cases report
  have other : (obstinate.nodes.find? "stub-4").map (fun node => node.record.tag) = some "db" := by
    decide +kernel
  rcases Option.map_eq_some_iff.1 other with ⟨node, found, tagged⟩
  rcases nodes "stub-4" node found with ⟨left, foundLeft, stays, _⟩
  have foreign : node.record.tag ≠ "web" := by
    rw [tagged]
    decide
  refine ⟨reached, last, finished, ?_, repeated⟩
  rw [found, ← stays foreign]
  exact foundLeft

end Service

end Fleet
