import Fleet.Proofs.Retry.Polling
import Fleet.Proofs.Scaleway.Pages
import Fleet.Proofs.Service.Destruction

/-!
# Requests that change servers

The nodes of a batch are found by a filter of the interface, by labels and by states, and a server
is looked up once more before it is destroyed. None of these is trusted alone. As long as nobody
else changes the account, whatever else it holds and however the interface filters, only servers of
the batch that are not terminated are asked for anything, each at most once, and for the right
thing. This holds at every moment, also when calls fail or are never answered.
-/

namespace Fleet.Scaleway

variable {σ S : Type}

/-! ## Requests on record -/

/-- The server that a call is to change. -/
def ApiCall.target? : ApiCall → Option String
  | act id _ => some id
  | deleteServer id => some id
  | _ => none

/-- The calls on record that were to change a server. -/
def requestsOn (id : String) (record : ApiRecord) : ApiRecord :=
  record.filter fun call => call.target? == some id

theorem requestsOn_append_self
    {id : String}
    {call : ApiCall}
    (targets : call.target? = some id)
    (record : ApiRecord) :
    requestsOn id (record ++ [call]) = requestsOn id record ++ [call] := by
  simp [requestsOn, targets]

theorem requestsOn_append_other
    {id : String}
    {call : ApiCall}
    (elsewhere : call.target? ≠ some id)
    (record : ApiRecord) :
    requestsOn id (record ++ [call]) = requestsOn id record := by
  simp [requestsOn, elsewhere]

theorem requestsOn_append_look
    {call : ApiCall}
    (look : call.target? = none)
    (id : String)
    (record : ApiRecord) :
    requestsOn id (record ++ [call]) = requestsOn id record :=
  requestsOn_append_other (by rw [look]; exact (Option.some_ne_none id).symm) record

/-- The call that destroys a server. -/
def removal (server : Server) : ApiCall :=
  if server.allowedActions.contains ServerAction.terminate.name then .act server.id .terminate
  else .deleteServer server.id

/-- The call that reboots a server. -/
def rebooting (server : Server) : ApiCall :=
  .act server.id .reboot

/-- Nothing was asked of a server, or it is a server of the batch that is not terminated and it was
asked once for what is to be done. -/
def Warranted
    (servers : List Server)
    (tag : String)
    (request : Server → ApiCall)
    (id : String)
    (record : ApiRecord) :
    Prop :=
  requestsOn id record = [] ∨
    ∃ server ∈ servers, server.id = id ∧ server.batch = some tag ∧
      nodeState server.state ≠ .terminated ∧ requestsOn id record = [request server]

theorem Warranted.congr
    {servers : List Server}
    {tag : String}
    {request : Server → ApiCall}
    {id : String}
    {before after : ApiRecord}
    (warranted : Warranted servers tag request id before)
    (same : requestsOn id before = requestsOn id after) :
    Warranted servers tag request id after := by
  rwa [Warranted, ← same]

/-! ## Accounts -/

/-- What an account holds, and which of its servers the interface lists for a label. -/
structure Account (σ : Type) where
  /-- The content of the account. -/
  servers : σ → List Server
  /-- What is listed of a content for a label, be it what carries the label or not. -/
  shown : Option String → List Server → List Server
  shown_sublist : ∀ label servers, (shown label servers).Sublist servers

def serverOf (servers : List Server) (id : String) : Option Server :=
  servers.find? fun server => server.id == id

/-- Among servers of different names each is found by its own. -/
theorem serverOf_eq
    {servers : List Server}
    (distinct : (servers.map Server.id).Nodup)
    {server : Server}
    (held : server ∈ servers) :
    serverOf servers server.id = some server := by
  induction servers with
  | nil => cases held
  | cons first rest inductionHypothesis =>
    rw [List.map_cons, List.nodup_cons] at distinct
    rcases List.mem_cons.1 held with rfl | later
    · simp [serverOf]
    · have apart : first.id ≠ server.id := fun same =>
        distinct.1 (same ▸ List.mem_map_of_mem later)
      rw [serverOf, List.find?_cons_of_neg (by simpa using apart)]
      exact inductionHypothesis distinct.2 later

namespace Account

variable (account : Account σ)

/-- The contract of calls that look at the account. -/
def watching : Contract σ :=
  .keeping account.servers

/-- The contract of calls that look at one server. -/
def looking (id : String) : Contract σ where
  rely before after := serverOf (account.servers before) id = serverOf (account.servers after) id
  guarantee before after := account.servers before = account.servers after
  rely_refl _ := rfl
  rely_trans _ _ _ := Eq.trans
  guarantee_refl _ := rfl

/-- The contract of calls that change one server. -/
def changing (id : String) : Contract σ where
  rely before after := serverOf (account.servers before) id = serverOf (account.servers after) id
  guarantee before after := ∀ other, other ≠ id →
    serverOf (account.servers before) other = serverOf (account.servers after) other
  rely_refl _ := rfl
  rely_trans _ _ _ := Eq.trans
  guarantee_refl _ _ _ := rfl

/-- What the account holds, and what was asked of each server. -/
def business (whole : σ × ApiRecord) : List Server × (String → ApiRecord) :=
  (account.servers whole.1, fun id => requestsOn id whole.2)

/-- The contract of an operation that asks something of one server, when it is warranted. -/
def minding (warranted : String → ApiRecord → Prop) (id : String) :
    Contract (σ × ApiRecord) where
  rely before after :=
    serverOf (account.servers before.1) id = serverOf (account.servers after.1) id ∧
      requestsOn id before.2 = requestsOn id after.2
  guarantee before after :=
    (∀ other, other ≠ id →
      serverOf (account.servers before.1) other = serverOf (account.servers after.1) other ∧
        requestsOn other before.2 = requestsOn other after.2) ∧
      (warranted id before.2 → warranted id after.2)
  rely_refl _ := ⟨rfl, rfl⟩
  rely_trans _ _ _ early late := ⟨early.1.trans late.1, early.2.trans late.2⟩
  guarantee_refl _ := ⟨fun _ _ => ⟨rfl, rfl⟩, fun warranted => warranted⟩

theorem compatible_minding
    (warranted : String → ApiRecord → Prop)
    {first second : String}
    (apart : first ≠ second) :
    (account.minding warranted first).Compatible (account.minding warranted second) :=
  ⟨fun _ _ allowed => allowed.1 second apart.symm, fun _ _ allowed => allowed.1 first apart⟩

end Account

/-- The backend works on an account: its calls see what the account holds as long as nobody else
changes it, and a call that is to change a server changes no other one. A call may fail, take its
time or never be answered. -/
structure Backend.Hosted (backend : Backend σ) (account : Account σ) : Prop where
  lists : ∀ label index state, (backend.api.servers label (index + 1)).Abides account.watching
    (fun answer _ => ∀ listed, answer = .ok listed →
      listed = pageOf (account.shown label (account.servers state)) (index + 1)) state
  looksUp : ∀ id state, (backend.api.server id).Abides (account.looking id)
    (fun answer _ => ∀ server, answer = .ok server →
      serverOf (account.servers state) id = some server) state
  acts : ∀ id action state,
    (backend.api.act id action).Abides (account.changing id) (fun _ _ => True) state
  deletes : ∀ id state,
    (backend.api.deleteServer id).Abides (account.changing id) (fun _ _ => True) state
  remembers : ∀ logins state,
    account.servers (backend.logins.update logins state) = account.servers state

/-! ## Calls on record -/

/-- A call keeps to what it does by itself, when it may be put on record. -/
theorem abides_making
    {α : Type}
    {call : ApiCall}
    {activity : Activity σ α}
    {contract : Contract σ}
    {goal : α → σ → Prop}
    {start : σ × ApiRecord}
    (whole : Contract (σ × ApiRecord))
    (kept : ApiRecord → Prop)
    (abides : activity.Abides contract goal start.1)
    (relies : ∀ before after, whole.rely before after → contract.rely before.1 after.1)
    (stands : ∀ before after, whole.rely before after → kept before.2 → kept after.2)
    (allowed : ∀ before after record, contract.guarantee before after →
      whole.guarantee (before, record) (after, record))
    (noted : ∀ met, whole.rely start met →
      whole.guarantee met (met.1, met.2 ++ [call]) ∧ kept (met.2 ++ [call])) :
    (call.making activity).Abides whole
      (fun result reached => goal result reached.1 ∧ kept reached.2) start := by
  intro now met relied
  obtain ⟨mayNote, keeps⟩ := noted met relied
  exact ⟨mayNote, (abides.interfere (relies _ _ relied)).focus_first relies stands
    allowed keeps⟩

section Answers

variable {α ε : Type} {contract : Contract σ} {goal : α → Prop} {state : σ}

theorem abides_error (error : ε) :
    (Activity.done (.error error : Except ε α)).Abides contract
      (fun answer _ => ∀ value, answer = .ok value → goal value) state := by
  rintro later - value ⟨⟩

theorem abides_ok
    {value : α}
    (holds : goal value) :
    (Activity.done (.ok value : Except ε α)).Abides contract
      (fun answer _ => ∀ value, answer = .ok value → goal value) state := by
  rintro later - _ ⟨⟩
  exact holds

end Answers

theorem respects_failing
    {α : Type}
    {contract : Contract σ}
    {state : σ}
    {call : Activity σ (Except ScalewayError α)}
    (respects : call.Respects contract state) :
    (Backend.failing call).Respects contract state :=
  respects.respects_bind fun _ _ _ => Activity.respects_done _

section Looks

variable (account : Account σ)

/-- The contract of operations that change no business. -/
def Account.onlooking : Contract (σ × ApiRecord) :=
  .keeping account.business

theorem Account.business_note
    {call : ApiCall}
    (look : call.target? = none)
    (whole : σ × ApiRecord) :
    account.business whole = account.business (whole.1, whole.2 ++ [call]) := by
  simp only [business, requestsOn_append_look look]

/-- A call that looks is an onlooker. -/
theorem abides_looking
    {α : Type}
    {call : ApiCall}
    {activity : Activity σ α}
    {contract : Contract σ}
    {goal : α → σ → Prop}
    {whole : σ × ApiRecord}
    (abides : activity.Abides contract goal whole.1)
    (look : call.target? = none)
    (relies : ∀ before after, account.servers before = account.servers after →
      contract.rely before after)
    (allowed : ∀ before after, contract.guarantee before after →
      account.servers before = account.servers after) :
    (call.making activity).Abides account.onlooking
      (fun result reached => goal result reached.1 ∧
        account.business whole = account.business reached) whole := by
  have looks := abides_making account.onlooking (fun _ => True) abides
    (fun before after same => relies _ _ (congrArg Prod.fst same)) (fun _ _ _ _ => trivial)
    (fun before after _ allows => Prod.ext (allowed before after allows) rfl)
    (fun met _ => ⟨account.business_note look met, trivial⟩)
  exact looks.keeping.mono fun _ _ ended => ⟨ended.1.1, ended.2⟩

end Looks

/-- What is asked of a live server of the batch for the first time is warranted. -/
theorem respects_asking
    {account : Account σ}
    {servers : List Server}
    {tag : String}
    {request : Server → ApiCall}
    {server : Server}
    {call : ApiCall}
    {activity : Activity σ (Except ScalewayError Unit)}
    {whole : σ × ApiRecord}
    (respects : activity.Respects (account.changing server.id) whole.1)
    (held : server ∈ servers)
    (ours : server.batch = some tag)
    (live : nodeState server.state ≠ .terminated)
    (asks : request server = call)
    (targets : call.target? = some server.id)
    (fresh : requestsOn server.id whole.2 = []) :
    (call.making activity).Respects (account.minding (Warranted servers tag request) server.id)
      whole := by
  refine (abides_making (account.minding (Warranted servers tag request) server.id)
    (fun _ => True) respects (fun _ _ relied => relied.1) (fun _ _ _ _ => trivial)
    (fun _ _ _ allowed => ⟨fun other apart => ⟨allowed other apart, rfl⟩, id⟩) ?_).mono
    fun _ _ _ => trivial
  rintro met ⟨-, same⟩
  refine ⟨⟨fun other apart => ⟨rfl, (requestsOn_append_other ?_ met.2).symm⟩,
    fun _ => ?_⟩, trivial⟩
  · rw [targets]
    exact fun same => apart (Option.some.inj same).symm
  · refine .inr ⟨server, held, rfl, ours, live, ?_⟩
    rw [requestsOn_append_self targets, ← same, fresh, asks]
    rfl

/-! ## Operations -/

/-- What a listing of a batch may show of some servers. -/
def ShowsOf (servers : List Server) (tag : String) (nodes : List Node) : Prop :=
  ∃ logins listed, listed.Sublist servers ∧
    nodes = (Backend.nodesOf logins listed).filter fun node => node.tag == tag

section Hosted

variable {backend : Backend σ} {account : Account σ} (hosted : backend.Hosted account)

include hosted

/-- The pages that are read are those of what the account holds, because nobody changes it in the
meantime. -/
theorem abides_pagesFrom
    (label : Option String)
    (remaining index : Nat)
    (whole : σ × ApiRecord) :
    (Backend.pagesFrom backend.recording.api label remaining (index + 1)).Abides account.onlooking
      (fun answer _ => ∀ listed, answer = .ok listed →
        listed = (account.shown label (account.servers whole.1)).drop (pageSize * index))
      whole := by
  induction remaining generalizing index whole with
  | zero => trivial
  | succ remaining inductionHypothesis =>
    have page : (backend.recording.api.servers label (index + 1)).Abides account.onlooking _
        whole :=
      abides_looking account (hosted.lists label index whole.1) rfl (fun _ _ same => same)
        fun _ _ same => same
    refine page.bind fun answer reached ⟨read, still⟩ => ?_
    have same : account.servers whole.1 = account.servers reached.1 := congrArg Prod.fst still
    cases answer with
    | error error => exact abides_error error
    | ok listed =>
      obtain rfl := read listed rfl
      dsimp only
      split
      case isTrue short => exact abides_ok (pageOf_eq_drop _ _ short)
      case isFalse full =>
        refine (inductionHypothesis (index + 1) reached).bind fun answer _ rest => ?_
        cases answer with
        | error error => exact abides_error error
        | ok others =>
          rintro later - _ ⟨⟩
          rw [rest others rfl, ← same, pageOf_append]

/-- A listing shows nodes of servers that the account holds. -/
theorem abides_list
    (tag : String)
    (whole : σ × ApiRecord) :
    (backend.recording.provider.list (some tag)).Abides account.onlooking
      (fun answer _ => ∀ nodes, answer = .ok nodes →
        ShowsOf (account.servers whole.1) tag nodes) whole := by
  have listing : (backend.recording.list (some tag)).Abides account.onlooking
      (fun answer _ => ∀ nodes, answer = .ok nodes →
        ShowsOf (account.servers whole.1) tag nodes) whole := by
    refine (abides_pagesFrom hosted (some (batchLabel tag)) Backend.lastPage 0 whole).bind
      fun answer reached read => ?_
    cases answer with
    | error error => exact abides_error error
    | ok listed =>
      refine Activity.abides_observe fun now met later _ _ => ?_
      rintro _ ⟨⟩
      refine ⟨backend.logins.view met.1, listed, ?_, rfl⟩
      rw [read listed rfl]
      exact (List.drop_sublist _ _).trans (account.shown_sublist _ _)
  refine listing.bind fun answer reached shown => ?_
  cases answer with
  | error error => exact abides_error _
  | ok nodes => exact abides_ok (shown nodes rfl)

theorem respects_get
    (id : String)
    (whole : σ × ApiRecord) :
    (backend.recording.provider.get id).Respects account.onlooking whole := by
  have looks : (backend.recording.api.server id).Abides account.onlooking _ whole :=
    abides_looking account (hosted.looksUp id whole.1) rfl
      (fun _ _ same => congrArg (serverOf · id) same) fun _ _ same => same
  refine respects_failing (looks.respects_bind fun answer reached _ => ?_)
  cases answer with
  | error error => exact Activity.respects_done _
  | ok server =>
    refine (Activity.respects_observe _).respects_bind fun login _ _ => ?_
    cases server.toNode login <;> exact Activity.respects_done _

section Minding

variable {servers : List Server} {tag : String} {request : Server → ApiCall} {server : Server}

theorem respects_reboot
    {whole : σ × ApiRecord}
    (held : server ∈ servers)
    (ours : server.batch = some tag)
    (live : nodeState server.state ≠ .terminated)
    (fresh : requestsOn server.id whole.2 = []) :
    (backend.recording.provider.reboot server.id).Respects
      (account.minding (Warranted servers tag rebooting) server.id) whole :=
  respects_failing
    (respects_asking (hosted.acts server.id .reboot whole.1) held ours live rfl rfl fresh)

/-- A server of the batch may be removed, in the way that is allowed. -/
theorem respects_remove
    {whole : σ × ApiRecord}
    (held : server ∈ servers)
    (ours : server.batch = some tag)
    (live : nodeState server.state ≠ .terminated)
    (fresh : requestsOn server.id whole.2 = []) :
    (backend.recording.remove server.id server).Respects
      (account.minding (Warranted servers tag removal) server.id) whole := by
  rw [Backend.remove]
  split
  case isTrue allowed =>
    exact respects_asking (hosted.acts server.id .terminate whole.1) held ours live
      (if_pos allowed) rfl fresh
  case isFalse refused =>
    exact respects_asking (hosted.deletes server.id whole.1) held ours live
      (if_neg refused) rfl fresh

theorem respects_forget
    (id : String)
    (whole : σ × ApiRecord) :
    (backend.recording.remember id none).Respects
      (account.minding (Warranted servers tag request) server.id) whole :=
  Activity.respects_modify fun met =>
    ⟨fun other _ => ⟨congrArg (serverOf · other) (hosted.remembers _ met.1).symm, rfl⟩,
      fun warranted => warranted⟩

/-- A server of the batch may be destroyed; the server that is looked up is the one that was
listed. -/
theorem respects_destroy
    {whole : σ × ApiRecord}
    (held : server ∈ servers)
    (ours : server.batch = some tag)
    (live : nodeState server.state ≠ .terminated)
    (found : serverOf (account.servers whole.1) server.id = some server)
    (fresh : requestsOn server.id whole.2 = []) :
    (backend.recording.provider.destroy server.id).Respects
      (account.minding (Warranted servers tag removal) server.id) whole := by
  have looks : (backend.recording.api.server server.id).Abides
      (account.minding (Warranted servers tag removal) server.id) _ whole :=
    abides_making (account.minding (Warranted servers tag removal) server.id)
      (fun record => requestsOn server.id record = [])
      (hosted.looksUp server.id whole.1) (fun _ _ relied => relied.1)
      (fun _ _ relied fresh => relied.2.symm.trans fresh)
      (fun before after record same =>
        ⟨fun other _ => ⟨congrArg (serverOf · other) same, rfl⟩, id⟩)
      (fun met relied => ?_)
  · refine respects_failing (looks.respects_bind fun answer reached ⟨read, fresh⟩ => ?_)
    cases answer with
    | error error => exact Activity.respects_done _
    | ok looked =>
      obtain rfl : looked = server := Option.some.inj ((read looked rfl).symm.trans found)
      dsimp only
      split
      case isTrue => exact Activity.respects_done _
      case isFalse =>
        refine (respects_remove hosted held ours live fresh).respects_bind fun answer _ _ => ?_
        cases answer with
        | error error => exact Activity.respects_done _
        | ok _ => exact (respects_forget hosted looked.id _).respects_bind fun _ _ _ =>
            Activity.respects_done _
  · have look : (ApiCall.server server.id).target? = none := rfl
    have same := fun other => requestsOn_append_look look other met.2
    refine ⟨⟨fun other _ => ⟨rfl, (same other).symm⟩, fun warranted => ?_⟩, ?_⟩
    · exact warranted.congr (same server.id).symm
    · exact (same server.id).trans (relied.2.symm.trans fresh)

end Minding

end Hosted

/-! ## Batches -/

/-- A live node of a listing is a server of the batch that is not terminated. -/
theorem exists_of_mem_live
    {servers : List Server}
    {tag : String}
    {nodes : List Node}
    (shown : ShowsOf servers tag nodes)
    {id : NodeId}
    (live : id ∈ (nodes.filter Node.isLive).map Node.id) :
    ∃ server ∈ servers, server.id = id ∧ server.batch = some tag ∧
      nodeState server.state ≠ .terminated := by
  obtain ⟨logins, listed, among, rfl⟩ := shown
  obtain ⟨node, member, rfl⟩ := List.mem_map.1 live
  obtain ⟨found, alive⟩ := List.mem_filter.1 member
  obtain ⟨found, tagged⟩ := List.mem_filter.1 found
  obtain ⟨server, inListing, shows⟩ := List.mem_filterMap.1 found
  obtain ⟨batch, ours, rfl⟩ := Option.map_eq_some_iff.1 shows
  refine ⟨server, among.mem inListing, rfl, ours.trans (congrArg some (eq_of_beq tagged)), ?_⟩
  intro gone
  simp [Node.isLive, NodeState.isTerminated, gone] at alive

/-- A listing shows no node twice. -/
theorem nodup_live
    {servers : List Server}
    (distinct : (servers.map Server.id).Nodup)
    {tag : String}
    {nodes : List Node}
    (shown : ShowsOf servers tag nodes) :
    ((nodes.filter Node.isLive).map Node.id).Nodup := by
  obtain ⟨logins, listed, among, rfl⟩ := shown
  have beside := map_id_of_shows (forall₂_nodesOf logins (some tag) listed)
  have fewer : (((Backend.nodesOf logins listed).filter fun node => node.tag == tag).filter
      Node.isLive).map Node.id |>.Sublist (servers.map Server.id) :=
    ((List.filter_sublist.map Node.id).trans (beside ▸ List.filter_sublist.map Server.id)).trans
      (among.map Server.id)
  exact distinct.sublist fewer

/-- Every request on record is warranted by what the account held. -/
def AllWarranted
    (servers : List Server)
    (tag : String)
    (request : Server → ApiCall)
    (record : ApiRecord) :
    Prop :=
  ∀ id, Warranted servers tag request id record

section Batches

variable {backend : Backend σ} {account : Account σ} (hosted : backend.Hosted account)
  {servers : List Server} {tag : String} {request : Server → ApiCall}

theorem allWarranted_of_business
    {before after : σ × ApiRecord}
    (warranted : AllWarranted servers tag request before.2)
    (same : account.business before = account.business after) :
    AllWarranted servers tag request after.2 :=
  fun id => (warranted id).congr (congrFun (congrArg Prod.snd same) id)

/-- A request for one server leaves the others as they were. -/
theorem allWarranted_of_minding
    {id : String}
    {before after : σ × ApiRecord}
    (allowed : (account.minding (Warranted servers tag request) id).guarantee before after)
    (warranted : AllWarranted servers tag request before.2) :
    AllWarranted servers tag request after.2 := by
  intro other
  by_cases same : other = id
  · subst same
    exact allowed.2 (warranted other)
  · exact (warranted other).congr (allowed.1 other same).2

theorem keeps_onlooking
    {α : Type}
    {activity : Activity (σ × ApiRecord) α}
    {whole : σ × ApiRecord}
    (respects : activity.Respects account.onlooking whole)
    (warranted : AllWarranted servers tag request whole.2)
    (now : Nat) :
    activity.Keeps (fun whole => AllWarranted servers tag request whole.2)
      (fun _ _ whole => AllWarranted servers tag request whole.2) now whole := by
  have keeps := respects.keeps
    (fun _ _ same warranted => allWarranted_of_business warranted same)
    (fun _ warranted => warranted) warranted now
  exact keeps.mono fun _ _ _ => And.right

include hosted

/-- An operation on the live nodes of a batch asks only for what is warranted. Each member minds a
server of its own, since a listing shows no node twice. -/
theorem keeps_forLiveNodes
    {state : σ}
    (distinct : ((account.servers state).map Server.id).Nodup)
    {operation : NodeId → Activity (σ × ApiRecord) (Except ProviderFailure Unit)}
    (respects : ∀ server ∈ account.servers state, server.batch = some tag →
      nodeState server.state ≠ .terminated → ∀ whole : σ × ApiRecord,
        serverOf (account.servers whole.1) server.id = some server →
        requestsOn server.id whole.2 = [] →
        (operation server.id).Respects
          (account.minding (Warranted (account.servers state) tag request) server.id) whole)
    (now : Nat) :
    (forLiveNodes (backend.recording.provider.list (some tag)) operation).Keeps
      (fun whole => AllWarranted (account.servers state) tag request whole.2)
      (fun _ _ whole => AllWarranted (account.servers state) tag request whole.2) now
      (state, []) := by
  have nothing : AllWarranted (account.servers state) tag request [] := fun _ => .inl rfl
  have listing := (abides_list hosted tag (state, [])).keeps
    (fun _ _ same known => Eq.trans known same)
    (fun _ same => allWarranted_of_business nothing same) rfl now
  refine listing.bind fun answer later whole ⟨shown, same⟩ => ?_
  have still := allWarranted_of_business nothing same
  cases answer with
  | error failure => exact still
  | ok nodes =>
    have apart := List.nodup_iff_pairwise_ne.1 (nodup_live distinct (shown nodes rfl))
    refine (Activity.keeps_gathered _ (apart.imp (account.compatible_minding _))
      (fun id _ before after => allWarranted_of_minding) ?_ still).bind
        fun _ _ _ warranted => warranted
    intro id target
    obtain ⟨server, held, rfl, ours, live⟩ := exists_of_mem_live (shown nodes rfl) target
    refine (respects server held ours live whole ?_ ?_).respects_bind fun _ _ _ =>
      Activity.respects_done _
    · rw [← show account.servers state = account.servers whole.1 from congrArg Prod.fst same]
      exact serverOf_eq distinct held
    · exact (congrFun (congrArg Prod.snd same) server.id).symm

theorem respects_awaitSettled
    {service : Service (σ × ApiRecord) S}
    (drives : service.provider = backend.recording.provider)
    (id : NodeId)
    (known : NodeState)
    (whole : σ × ApiRecord) :
    (service.awaitSettled id known).Respects account.onlooking whole := by
  refine (PollPolicy.respects_follow (fun sighting reached => ?_) _ _ _).respects_bind
    fun _ _ _ => Activity.respects_done _
  rw [drives]
  exact (respects_get hosted id reached).respects_bind fun _ _ _ => Activity.respects_done _

section Service

variable {service : Service (σ × ApiRecord) S}
  (drives : service.provider = backend.recording.provider) (tag : String) {state : σ}
  (distinct : ((account.servers state).map Server.id).Nodup) (now : Nat)

include drives distinct

/-- A destruction asks only for what is warranted. What is listed once more is only looked at. -/
theorem keeps_destroyTagged :
    (service.destroyTagged tag).Keeps
      (fun whole => AllWarranted (account.servers state) tag removal whole.2)
      (fun _ _ whole => AllWarranted (account.servers state) tag removal whole.2) now
      (state, []) := by
  rw [Service.destroyTagged, Service.listTagged, drives]
  refine (keeps_forLiveNodes hosted distinct (fun server held ours live whole found fresh =>
    respects_destroy hosted held ours live found fresh) now).bind
      fun answer later whole warranted => ?_
  cases answer with
  | error failure => exact warranted
  | ok results =>
    dsimp only
    split
    · exact warranted
    · have relisting : (Service.calling .listNodes
          (backend.recording.provider.list (some tag))).Respects account.onlooking whole :=
        (abides_list hosted tag whole).respects_bind fun _ _ _ => Activity.respects_done _
      refine (keeps_onlooking relisting warranted later).bind fun answer _ _ warranted => ?_
      cases answer <;> exact warranted

/-- A reboot asks only for what is warranted. Those that wait for the rebooted nodes look at them
side by side. -/
theorem keeps_rebootTagged :
    (service.rebootTagged tag).Keeps
      (fun whole => AllWarranted (account.servers state) tag rebooting whole.2)
      (fun _ _ whole => AllWarranted (account.servers state) tag rebooting whole.2) now
      (state, []) := by
  rw [Service.rebootTagged, drives]
  refine (keeps_forLiveNodes hosted distinct (fun server held ours live whole _ fresh =>
    respects_reboot hosted held ours live fresh) now).bind
      fun answer later whole warranted => ?_
  cases answer with
  | error failure => exact warranted
  | ok results =>
    dsimp only
    split
    · exact warranted
    · refine (Activity.keeps_gathered (fun _ => account.onlooking)
        (List.pairwise_of_forall fun _ _ => Contract.compatible_keeping account.business)
        (fun _ _ _ _ same warranted => allWarranted_of_business warranted same) ?_
        warranted).bind fun _ _ _ warranted => warranted
      exact fun id _ => respects_awaitSettled hosted drives id .running whole

/-- Destroying or rebooting a batch asks only for what is warranted: of every server nothing, or
else it is a server of the batch that is not terminated, and it is asked once, to be removed in the
way that is allowed or to be rebooted. -/
theorem requests_warranted :
    (service.destroyTagged tag).Keeps
        (fun whole => AllWarranted (account.servers state) tag removal whole.2)
        (fun _ _ whole => AllWarranted (account.servers state) tag removal whole.2) now
        (state, []) ∧
      (service.rebootTagged tag).Keeps
        (fun whole => AllWarranted (account.servers state) tag rebooting whole.2)
        (fun _ _ whole => AllWarranted (account.servers state) tag rebooting whole.2) now
        (state, []) :=
  ⟨keeps_destroyTagged hosted drives tag distinct now,
    keeps_rebootTagged hosted drives tag distinct now⟩

end Service

end Batches

/-! ## An instance

An interface that lists the whole account for any label. A server that is terminated or deleted is
gone at once. -/

/-- The servers that do not have an id. -/
def withoutServer (id : String) (servers : List Server) : List Server :=
  servers.filter fun server => server.id != id

theorem serverOf_withoutServer
    {id other : String}
    (apart : other ≠ id)
    (servers : List Server) :
    serverOf (withoutServer id servers) other = serverOf servers other := by
  rw [serverOf, withoutServer, List.find?_filter, serverOf]
  refine congrArg (List.find? · servers) (funext fun server => ?_)
  by_cases same : server.id = other
  · simp [same, apart]
  · simp [same]

/-- The account that is the first component of the world, all of which is listed for any label. -/
def wholeAccount : Account (List Server × Table Credentials) where
  servers := Prod.fst
  shown _ servers := servers
  shown_sublist _ servers := List.Sublist.refl servers

/-- The backend that works on the account. -/
def wholeBackend : Backend (List Server × Table Credentials) where
  api :=
    { createServer := fun _ => .hang
      act := fun id action => .perform fun _ world =>
        (.ok (), if action = .reboot then world.1 else withoutServer id world.1, world.2)
      deleteServer := fun id => .perform fun _ world => (.ok (), withoutServer id world.1, world.2)
      server := fun id => .observe fun _ world =>
        match serverOf world.1 id with
        | none => .error (.http "GET" id 404 "")
        | some server => .ok server
      servers := fun _ page => .observe fun _ world => .ok (pageOf world.1 page)
      images := fun _ => .hang
      products := .hang }
  config := { secretKey := "secret", project := "project" }
  logins := { view := Prod.snd, update := fun logins world => (world.1, logins) }
  freshToken := .hang

/-- The example interface works on its account as it should. -/
theorem hosted_wholeBackend : wholeBackend.Hosted wholeAccount where
  lists label index state := by
    refine Activity.abides_observe fun _ met _ same _ => ?_
    rintro _ ⟨⟩
    exact congrArg (pageOf · (index + 1)) same.symm
  looksUp id state := by
    refine Activity.abides_observe fun _ met _ same _ => ?_
    intro server answered
    split at answered
    · cases answered
    case h_2 found =>
      cases answered
      exact Eq.trans same found
  acts id action state := by
    intro _ met _
    refine ⟨fun other apart => ?_, fun _ _ => trivial⟩
    show serverOf met.1 other =
      serverOf (if action = .reboot then met.1 else withoutServer id met.1) other
    split
    · rfl
    · exact (serverOf_withoutServer apart met.1).symm
  deletes id state := by
    intro _ met _
    exact ⟨fun other apart => (serverOf_withoutServer apart met.1).symm, fun _ _ => trivial⟩
  remembers _ _ := rfl

/-- Two servers of the batch `web`, one of them stopped, a third one that is terminated, one of
another batch and one of no batch. -/
def mixedServers : List Server :=
  [{ id := "a", state := "running", allowedActions := ["reboot", "terminate"],
     labels := ["blue", batchLabel "web"], zone := "fr-par-1" },
    { id := "b", state := "stopped", labels := [batchLabel "web", batchLabel "db"],
      zone := "fr-par-1" },
    { id := "c", state := "terminated", labels := [batchLabel "web"], zone := "fr-par-1" },
    { id := "d", state := "running", allowedActions := ["terminate"],
      labels := [batchLabel "db", batchLabel "web"], zone := "fr-par-1" },
    { id := "e", state := "running", allowedActions := ["terminate"], labels := ["web"],
      zone := "fr-par-1" }]

/-- Of five servers that are all listed, the two live ones of the batch are removed. -/
theorem requests_warranted_mixed :
    ∃ answer later reached,
      ((Service.plainService wholeBackend.recording.provider).destroyTagged "web").run 0
        ((mixedServers, .empty), []) = some (answer, later, reached) ∧
      (reached.2.filter fun call => call.target?.isSome) =
        [.act "a" .terminate, .deleteServer "b"] ∧
      AllWarranted mixedServers "web" removal reached.2 := by
  have asked : (((Service.plainService wholeBackend.recording.provider).destroyTagged "web").run 0
      ((mixedServers, .empty), [])).map (fun ended =>
        ended.2.2.2.filter fun call => call.target?.isSome) =
      some [.act "a" .terminate, .deleteServer "b"] := by
    decide +kernel
  obtain ⟨⟨answer, later, reached⟩, ran, requests⟩ := Option.map_eq_some_iff.1 asked
  have drives : (Service.plainService wholeBackend.recording.provider).provider =
      wholeBackend.recording.provider := rfl
  have distinct : ((wholeAccount.servers (mixedServers, .empty)).map Server.id).Nodup := by
    decide
  have warranted := requests_warranted hosted_wholeBackend drives "web" distinct 0
  exact ⟨answer, later, reached, ran, requests, warranted.1.goal_of_run ran⟩

end Fleet.Scaleway
