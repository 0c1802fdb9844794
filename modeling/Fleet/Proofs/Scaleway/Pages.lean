import Fleet.Proofs.Activity.Instant
import Fleet.Proofs.Scaleway.Recorded
import Mathlib.Data.List.Forall2

/-!
# Listing page by page

A listing is read page after page until a page is not full. The interface serves the pages of some
list of servers, and then reading it asks for every page once, up to the first that is not full,
which is empty when the servers fill their pages. What is read is the list itself: no server is
lost, and none is read twice. The nodes of the account are then the servers with a batch, in the
order of the list, or those of the wanted batch.
-/

namespace Fleet.Scaleway

variable {σ : Type}

/-- The servers on a page of a list; pages are counted from one. -/
def pageOf (servers : List Server) (page : Nat) : List Server :=
  (servers.drop (pageSize * (page - 1))).take pageSize

/-- The interface serves the pages of a list of servers. Whatever else goes on in the world, it
answers every request for a page. -/
structure Paged (api : Api σ) (label : Option String) (servers : List Server) : Prop where
  serves : ∀ page, 1 ≤ page → page ≤ Backend.lastPage → ∀ now state, ∃ later reached,
    (api.servers label page).run now state = some (.ok (pageOf servers page), later, reached)
  /-- The page that is not full has a number as well; page numbers are words of 32 bits, and the
  last of them is the largest such word. -/
  numbered : servers.length / pageSize < Backend.lastPage

/-- A server that a listing shows: it has a batch, the wanted one if one is wanted. -/
def Server.isListedFor (tag : Option String) (server : Server) : Bool :=
  server.batch.any fun batch => tag.all fun wanted => batch == wanted

/-! ## Pages -/

section Pages

variable (servers : List Server) (index : Nat)

theorem length_pageOf :
    (pageOf servers (index + 1)).length = min pageSize (servers.length - pageSize * index) := by
  simp only [pageOf, Nat.add_sub_cancel, List.length_take, List.length_drop]

/-- What is on a page and what is behind it. -/
theorem pageOf_append :
    pageOf servers (index + 1) ++ servers.drop (pageSize * (index + 1)) =
      servers.drop (pageSize * index) := by
  rw [pageOf, Nat.add_sub_cancel, Nat.mul_succ, ← List.drop_drop, List.take_append_drop]

theorem index_eq_of_short
    (onList : pageSize * index ≤ servers.length)
    (short : (pageOf servers (index + 1)).length < pageSize) :
    index = servers.length / pageSize := by
  rw [length_pageOf] at short
  have positive : 0 < pageSize := by decide
  refine (Nat.div_eq_of_lt_le ?_ ?_).symm
  · rwa [Nat.mul_comm]
  · rw [Nat.mul_comm, Nat.mul_succ]
    omega

theorem pageOf_eq_drop (short : (pageOf servers (index + 1)).length < pageSize) :
    pageOf servers (index + 1) = servers.drop (pageSize * index) := by
  rw [length_pageOf] at short
  rw [pageOf, Nat.add_sub_cancel]
  refine List.take_of_length_le ?_
  rw [List.length_drop]
  omega

/-- Behind a full page the list goes on, be it with nothing. -/
theorem le_length_of_full (full : ¬ (pageOf servers (index + 1)).length < pageSize) :
    pageSize * (index + 1) ≤ servers.length := by
  rw [length_pageOf] at full
  have positive : 0 < pageSize := by decide
  rw [Nat.mul_succ]
  omega

end Pages

/-! ## Reading a list -/

/-- The calls that read a number of pages from one page on. -/
def pageCalls (label : Option String) (page count : Nat) : ApiRecord :=
  (List.range' page count).map (ApiCall.servers label)

theorem pageCalls_succ
    (label : Option String)
    (page count : Nat) :
    pageCalls label page (count + 1) = .servers label page :: pageCalls label (page + 1) count := by
  simp only [pageCalls, List.range'_succ, List.map_cons]

variable {api : Api σ} {label : Option String} {servers : List Server}

/-- Reading from a page on gives the rest of the list, and asks for every page up to the first one
that is not full, which is the one behind all full ones. -/
theorem run_pagesFrom
    (paged : Paged api label servers)
    {remaining index : Nat}
    (within : remaining + index = Backend.lastPage)
    (onList : pageSize * index ≤ servers.length)
    (now : Nat)
    (state : σ)
    (record : ApiRecord) :
    ∃ later reached,
      (Backend.pagesFrom api.recording label remaining (index + 1)).run now (state, record) =
        some (.ok (servers.drop (pageSize * index)), later, reached,
          record ++ pageCalls label (index + 1) (servers.length / pageSize + 1 - index)) := by
  have atMost : index ≤ servers.length / pageSize := by
    rw [Nat.le_div_iff_mul_le (by decide), Nat.mul_comm]
    exact onList
  have numbered := paged.numbered
  induction remaining generalizing index now state record with
  | zero => omega
  | succ remaining inductionHypothesis =>
    obtain ⟨later, reached, served⟩ := paged.serves (index + 1) (by omega) (by omega) now state
    have asked : (api.recording.servers label (index + 1)).run now (state, record) =
        some (.ok (pageOf servers (index + 1)), later, reached,
          record ++ [.servers label (index + 1)]) := by
      rw [show api.recording.servers label (index + 1) = (ApiCall.servers label (index + 1)).making
        (api.servers label (index + 1)) from rfl, run_making, served]
      rfl
    simp only [Backend.pagesFrom, Activity.bind_eq_bind, Activity.pure_eq_done, Activity.run_bind,
      asked, Option.bind_some]
    split
    case isTrue short =>
      refine ⟨later, reached, ?_⟩
      have last := index_eq_of_short servers index onList short
      rw [Activity.run_done, pageOf_eq_drop servers index short,
        show servers.length / pageSize + 1 - index = 1 by omega]
      rfl
    case isFalse full =>
      have behind := le_length_of_full servers index full
      have counted : index + 1 ≤ servers.length / pageSize := by
        rw [Nat.le_div_iff_mul_le (by decide), Nat.mul_comm]
        exact behind
      obtain ⟨last, ending, others⟩ := inductionHypothesis (by omega) behind
        later reached (record ++ [.servers label (index + 1)]) counted
      rw [List.append_assoc] at others
      refine ⟨last, ending, ?_⟩
      rw [Activity.run_bind, others, ← pageOf_append servers index,
        show servers.length / pageSize + 1 - index =
          servers.length / pageSize + 1 - (index + 1) + 1 by omega, pageCalls_succ]
      rfl

/-! ## The nodes of a listing -/

/-- The record of a node is what its server says, with the login that is remembered for it. -/
def Server.Shows (logins : Table Credentials) (server : Server) (node : Node) : Prop :=
  server.toNode (logins.find? server.id) = some node

/-- The servers that a listing shows are beside their nodes, in order and each once. -/
theorem forall₂_nodesOf
    (logins : Table Credentials)
    (tag : Option String)
    (servers : List Server) :
    List.Forall₂ (Server.Shows logins) (servers.filter (Server.isListedFor tag))
      ((Backend.nodesOf logins servers).filter fun node =>
        tag.all fun wanted => node.tag == wanted) := by
  induction servers with
  | nil => exact .nil
  | cons server rest inductionHypothesis =>
    simp only [Backend.nodesOf] at inductionHypothesis ⊢
    cases found : server.batch with
    | none =>
      have absent : server.toNode (logins.find? server.id) = none := by
        rw [Server.toNode, found, Option.map_none]
      have unlisted : server.isListedFor tag = false := by
        rw [Server.isListedFor, found, Option.any_none]
      simpa only [List.filterMap_cons, absent, List.filter_cons, unlisted, Bool.false_eq_true,
        if_false] using inductionHypothesis
    | some batch =>
      obtain ⟨node, shown, sameTag⟩ :
          ∃ node, server.toNode (logins.find? server.id) = some node ∧ node.tag = batch := by
        rw [Server.toNode, found]
        exact ⟨_, rfl, rfl⟩
      have listed : server.isListedFor tag = tag.all fun wanted => node.tag == wanted := by
        rw [Server.isListedFor, found, sameTag, Option.any_some]
      simp only [List.filterMap_cons, shown, List.filter_cons, listed]
      split
      · exact .cons shown inductionHypothesis
      · exact inductionHypothesis

theorem Server.Shows.sameId
    {logins : Table Credentials}
    {server : Server}
    {node : Node}
    (shows : server.Shows logins node) :
    server.id = node.id := by
  obtain ⟨batch, -, rfl⟩ := Option.map_eq_some_iff.1 shows
  rfl

theorem map_id_of_shows
    {logins : Table Credentials}
    {servers : List Server}
    {nodes : List Node}
    (shown : List.Forall₂ (Server.Shows logins) servers nodes) :
    servers.map Server.id = nodes.map Node.id := by
  induction shown with
  | nil => rfl
  | cons first _ inductionHypothesis =>
    rw [List.map_cons, List.map_cons, first.sameId, inductionHypothesis]

/-! ## Listing -/

/-- A listing that the interface serves in pages ends, and shows the servers with a batch, or those
of the wanted batch, in the order of the list and each once. It asks for as many pages as the
servers fill, and for one more, which is not full. -/
theorem list_of_paged
    (backend : Backend σ)
    (tag : Option String)
    (servers : List Server)
    (paged : Paged backend.api (tag.map batchLabel) servers)
    (now : Nat)
    (state : σ)
    (record : ApiRecord) :
    ∃ nodes later reached,
      (backend.provider.list tag).run now state = some (.ok nodes, later, reached) ∧
      (backend.recording.provider.list tag).run now (state, record) =
        some (.ok nodes, later, reached,
          record ++ pageCalls (tag.map batchLabel) 1 (servers.length / pageSize + 1)) ∧
      List.Forall₂ (Server.Shows (backend.logins.view reached))
        (servers.filter (Server.isListedFor tag)) nodes := by
  obtain ⟨later, reached, read⟩ := run_pagesFrom paged (Nat.add_zero Backend.lastPage)
    (Nat.zero_le _) now state record
  have recorded : (backend.recording.provider.list tag).run now (state, record) =
      some (.ok ((Backend.nodesOf (backend.logins.view reached) servers).filter fun node =>
          tag.all fun wanted => node.tag == wanted), later, reached,
        record ++ pageCalls (tag.map batchLabel) 1 (servers.length / pageSize + 1)) := by
    show (Activity.bind (Activity.bind (Backend.pagesFrom backend.api.recording
      (tag.map batchLabel) Backend.lastPage 1) _) _).run now (state, record) = _
    rw [Activity.run_bind, Activity.run_bind, read]
    rfl
  refine ⟨_, later, reached, ?_, recorded,
    forall₂_nodesOf (backend.logins.view reached) tag servers⟩
  rw [← shadows_list backend tag now state record, recorded]
  rfl

/-- A backend whose interface serves the pages of a list, and never answers anything else. -/
def servingBackend (servers : List Server) : Backend (Table Credentials) where
  api :=
    { createServer := fun _ => .hang
      act := fun _ _ => .hang
      deleteServer := fun _ => .hang
      server := fun _ => .hang
      servers := fun _ page => .done (.ok (pageOf servers page))
      images := fun _ => .hang
      products := .hang }
  config := { secretKey := "secret", project := "project" }
  logins := Part.self (Table Credentials)
  freshToken := .hang

/-- Servers of which every fortieth belongs first to the batch `web`. -/
def hundredServers : List Server :=
  (List.range 100).map fun index =>
    { id := toString index
      state := "running"
      labels :=
        if index % 40 = 0 then ["blue", batchLabel "web", batchLabel "db"]
        else if index % 2 = 0 then [batchLabel "web2", batchLabel "web"]
        else []
      zone := "fr-par-1" }

/-- A hundred servers are read with two requests, the second one for an empty page. -/
theorem list_of_paged_hundred :
    ∃ nodes later reached,
      ((servingBackend hundredServers).recording.provider.list (some "web")).run 0 ({}, []) =
        some (.ok nodes, later, reached,
          [.servers (some "cumulus-tag=web") 1, .servers (some "cumulus-tag=web") 2]) ∧
      nodes.map Node.id = ["0", "40", "80"] := by
  have paged : Paged (servingBackend hundredServers).api (some "cumulus-tag=web") hundredServers :=
    { serves := fun _ _ _ _ _ => ⟨_, _, rfl⟩
      numbered := by decide +kernel }
  obtain ⟨nodes, later, reached, -, recorded, shown⟩ :=
    list_of_paged (servingBackend hundredServers) (some "web") hundredServers paged 0 {} []
  refine ⟨nodes, later, reached, recorded.trans ?_, ?_⟩
  · have requests : pageCalls ((some "web").map batchLabel) 1
        (hundredServers.length / pageSize + 1) =
          [.servers (some "cumulus-tag=web") 1, .servers (some "cumulus-tag=web") 2] := by
      decide +kernel
    rw [requests]
    rfl
  · rw [← map_id_of_shows shown]
    decide +kernel

end Fleet.Scaleway
