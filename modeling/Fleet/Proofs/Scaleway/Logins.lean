import Fleet.Proofs.Activity.Desk
import Fleet.Proofs.Activity.Instant
import Fleet.Proofs.Activity.Map
import Fleet.Proofs.Scaleway.Creation

/-!
# Logins that are remembered

The interface does not know the keys of logins. A backend remembers them beside the world that the
interface shows, and all its copies share what it remembers. Calls of the copies go on side by side,
and each of them may fail at every step. A call that makes a server or destroys one settles what is
remembered of it with its last action, and no other call changes what is remembered. So the login
that a listing or a look shows for a node is a matter of the calls that have been answered before
it.
-/

namespace Fleet.Scaleway

open Activity (map_bind)

variable {σ : Type}

/-! ## Calls and answers -/

/-- A call of a backend. -/
inductive Errand where
  | create (tag : String) (template : Template)
  | list (tag : Option String)
  | get (id : NodeId)
  | destroy (id : NodeId)

/-- A call of a backend with its answer. -/
inductive Deed where
  | created (tag : String) (template : Template) (answer : Except ScalewayError Node)
  | listed (tag : Option String) (answer : Except ScalewayError (List Node))
  | got (id : NodeId) (answer : Except ScalewayError Node)
  | destroyed (id : NodeId) (answer : Except ScalewayError Unit)

/-- The work of a call. -/
def Backend.work (backend : Backend σ) : Errand → Activity σ Deed
  | .create tag template => Deed.created tag template <$> backend.create tag template
  | .list tag => Deed.listed tag <$> backend.list tag
  | .get id => Deed.got id <$> backend.get id
  | .destroy id => Deed.destroyed id <$> backend.destroy id

namespace Deed

/-- The nodes that a listing or a look shows. -/
def shown : Deed → List Node
  | listed _ (.ok nodes) => nodes
  | got _ (.ok node) => [node]
  | _ => []

/-- The server that a call has made or destroyed. -/
def settled : Deed → Option NodeId
  | created _ _ (.ok node) => some node.id
  | destroyed id (.ok _) => some id
  | _ => none

/-- The login that a call has installed on the server that it has made. -/
def login : Deed → Option Credentials
  | created _ template (.ok _) =>
    template.options.privateKey.map fun key => { account := "root", key := key }
  | _ => none

end Deed

/-- The last call that made a server with a name installed the key of the login, and no call has
destroyed the server since. -/
def Installed (deeds : List Deed) (id : NodeId) (login : Credentials) : Prop :=
  ∃ before tag template node key after,
    deeds = before ++ .created tag template (.ok node) :: after ∧ node.id = id ∧
    template.options.privateKey = some key ∧ login = { account := "root", key := key } ∧
    ∀ deed ∈ after, deed.settled ≠ some id

/-- The last call decides about the server that it has made or destroyed, and about no other one. -/
theorem installed_concat_iff
    {deeds : List Deed}
    {deed : Deed}
    {id : NodeId}
    {login : Credentials} :
    Installed (deeds ++ [deed]) id login ↔
      if deed.settled = some id then deed.login = some login else Installed deeds id login := by
  constructor
  · rintro ⟨before, tag, template, node, key, after, split, rfl, keyed, rfl, unsettled⟩
    rcases List.eq_nil_or_concat after with rfl | ⟨rest, last, rfl⟩
    · obtain ⟨rfl, same⟩ := List.append_inj' split rfl
      cases same
      have settled : (Deed.created tag template (.ok node)).settled = some node.id := rfl
      rw [if_pos settled, Deed.login, keyed, Option.map_some]
    · rw [List.concat_eq_append, ← List.cons_append, ← List.append_assoc] at split
      obtain ⟨rfl, same⟩ := List.append_inj' split rfl
      cases same
      rw [if_neg (unsettled deed (by simp))]
      exact ⟨before, tag, template, node, key, rest, rfl, rfl, keyed, rfl,
        fun other among => unsettled other (by simp [among])⟩
  · split
    case isTrue settled =>
      intro installed
      match deed, settled, installed with
      | .created tag template (.ok node), settled, installed =>
        obtain ⟨key, keyed, rfl⟩ := Option.map_eq_some_iff.1 installed
        exact ⟨deeds, tag, template, node, key, [], rfl, Option.some.inj settled, keyed, rfl,
          by simp⟩
    case isFalse unsettled =>
      rintro ⟨before, tag, template, node, key, after, rfl, same, keyed, rfl, others⟩
      refine ⟨before, tag, template, node, key, after ++ [deed], by simp, same, keyed, rfl, ?_⟩
      intro other among
      rcases List.mem_append.1 among with earlier | last
      · exact others other earlier
      · rwa [List.mem_singleton.1 last]

/-! ## What a call remembers -/

/-- What is remembered when a call has its answer. -/
def Deed.remembered (deed : Deed) (logins : Table Credentials) : Table Credentials :=
  match deed.settled, deed.login with
  | some id, some login => logins.insert id login
  | some id, none => logins.erase id
  | none, _ => logins

theorem Deed.find?_remembered
    (deed : Deed)
    (logins : Table Credentials)
    (id : NodeId) :
    (deed.remembered logins).find? id =
      if deed.settled = some id then deed.login else logins.find? id := by
  rw [remembered]
  cases deed.settled with
  | none => rfl
  | some settled =>
    cases deed.login with
    | none => simp only [Table.find?_erase, Option.some.injEq]
    | some login => simp only [Table.find?_insert, Option.some.injEq]

/-- What a call does with the logins: it remembers what it has to, and the nodes that it shows have
the logins that are remembered. -/
structure Deed.Follows (deed : Deed) (before after : Table Credentials) : Prop where
  remembered : after = deed.remembered before
  shown : ∀ node ∈ deed.shown, node.credentials = before.find? node.id

/-- What is remembered is nobody's business but the backend's: what is put there is found there, and
the calls of the interface leave it alone. -/
structure Backend.Discreet (backend : Backend σ) : Prop where
  lawful : backend.logins.Lawful
  freshToken : backend.freshToken.Spares backend.logins
  createServer : ∀ order, (backend.api.createServer order).Spares backend.logins
  act : ∀ id action, (backend.api.act id action).Spares backend.logins
  deleteServer : ∀ id, (backend.api.deleteServer id).Spares backend.logins
  server : ∀ id, (backend.api.server id).Spares backend.logins
  servers : ∀ label page, (backend.api.servers label page).Spares backend.logins

section Work

variable {backend : Backend σ}

/-- A call that fails remembers nothing and shows nothing. -/
theorem settles_failed
    {deed : Deed}
    (unsettled : deed.settled = none)
    (nothing : deed.shown = []) :
    (Activity.done deed : Activity σ Deed).Settles backend.logins Deed.Follows := by
  intro logins
  refine ⟨?_, ?_⟩
  · rw [Deed.remembered, unsettled]
  · rw [nothing]
    simp

variable (discreet : backend.Discreet)

include discreet

theorem spares_powerOn (created : Created) : (backend.powerOn created).Spares backend.logins := by
  rw [Backend.powerOn]
  split
  · trivial
  · split
    · exact discreet.act created.id .powerOn
    · trivial

theorem spares_remove
    (id : NodeId)
    (server : Server) :
    (backend.remove id server).Spares backend.logins := by
  rw [Backend.remove]
  split
  · exact discreet.act id .terminate
  · exact discreet.deleteServer id

/-- Reading pages leaves the remembered logins alone. -/
theorem spares_pagesFrom
    (label : Option String)
    (remaining page : Nat) :
    (Backend.pagesFrom backend.api label remaining page).Spares backend.logins := by
  induction remaining generalizing page with
  | zero => trivial
  | succ remaining inductionHypothesis =>
    refine (discreet.servers label page).bind fun answer => ?_
    cases answer with
    | error error => trivial
    | ok listed =>
      dsimp only
      split
      · trivial
      · refine (inductionHypothesis (page + 1)).bind fun answer => ?_
        cases answer <;> trivial

/-- A creation leaves the logins alone until it remembers the one of the new node. -/
theorem settles_create
    (tag : String)
    (template : Template) :
    (backend.work (.create tag template)).Settles backend.logins Deed.Follows := by
  rw [Backend.work, Backend.create, Activity.bind_eq_bind, map_bind]
  refine discreet.freshToken.settles fun token => ?_
  rw [Activity.bind_eq_bind, map_bind]
  refine (discreet.createServer _).settles fun answer => ?_
  cases answer with
  | error error => exact settles_failed rfl rfl
  | ok created =>
    dsimp only
    rw [Activity.bind_eq_bind, map_bind]
    refine (spares_powerOn discreet created).settles fun answer => ?_
    cases answer with
    | error error => exact settles_failed rfl rfl
    | ok _ =>
      cases keyed : template.options.privateKey with
      | none =>
        refine fun now state => .inl ⟨_, rfl, ?_, by simp [Deed.shown]⟩
        show backend.logins.view (backend.logins.update _ state) = _
        rw [discreet.lawful.view_update]
        simp [Deed.remembered, Deed.settled, Deed.login, keyed, Backend.newNode]
      | some key =>
        refine fun now state => .inl ⟨_, rfl, ?_, by simp [Deed.shown]⟩
        show backend.logins.view (backend.logins.update _ state) = _
        rw [discreet.lawful.view_update]
        simp [Deed.remembered, Deed.settled, Deed.login, keyed, Backend.newNode,
          Backend.loginAccount]

theorem settles_list (tag : Option String) :
    (backend.work (.list tag)).Settles backend.logins Deed.Follows := by
  rw [Backend.work, Backend.list, Activity.bind_eq_bind, map_bind]
  refine (spares_pagesFrom discreet _ _ _).settles fun answer => ?_
  cases answer with
  | error error => exact settles_failed rfl rfl
  | ok servers =>
    refine fun now state => .inl ⟨_, rfl, rfl, fun node shown => ?_⟩
    obtain ⟨shown, -⟩ := List.mem_filter.1 shown
    obtain ⟨server, -, shows⟩ := List.mem_filterMap.1 shown
    obtain ⟨batch, -, rfl⟩ := Option.map_eq_some_iff.1 shows
    rfl

/-- A look recalls a login and changes none. -/
theorem settles_get (id : NodeId) :
    (backend.work (.get id)).Settles backend.logins Deed.Follows := by
  rw [Backend.work, Backend.get, Activity.bind_eq_bind, map_bind]
  refine (discreet.server id).settles fun answer => ?_
  cases answer with
  | error error => exact settles_failed rfl rfl
  | ok server =>
    intro now state
    refine .inl ?_
    dsimp only [Activity.bind]
    cases shows : server.toNode ((backend.logins.view state).find? server.id) with
    | none => exact ⟨_, rfl, rfl, by simp [Deed.shown]⟩
    | some node =>
      obtain ⟨batch, -, rfl⟩ := Option.map_eq_some_iff.1 shows
      refine ⟨_, rfl, rfl, ?_⟩
      rintro _ (_ | ⟨_, ⟨⟩⟩)
      rfl

/-- A destruction leaves the logins alone until it forgets the one of the node. -/
theorem settles_destroy (id : NodeId) :
    (backend.work (.destroy id)).Settles backend.logins Deed.Follows := by
  rw [Backend.work, Backend.destroy, Activity.bind_eq_bind, map_bind]
  refine (discreet.server id).settles fun answer => ?_
  cases answer with
  | error error => exact settles_failed rfl rfl
  | ok server =>
    dsimp only
    split
    · exact settles_failed rfl rfl
    · rw [Activity.bind_eq_bind, map_bind]
      refine (spares_remove discreet id server).settles fun answer => ?_
      cases answer with
      | error error => exact settles_failed rfl rfl
      | ok _ =>
        refine fun now state => .inl ⟨_, rfl, ?_, by simp [Deed.shown]⟩
        exact discreet.lawful.view_update _ state

theorem settles_work (errand : Errand) :
    (backend.work errand).Settles backend.logins Deed.Follows := by
  cases errand with
  | create tag template => exact settles_create discreet tag template
  | list tag => exact settles_list discreet tag
  | get id => exact settles_get discreet id
  | destroy id => exact settles_destroy discreet id

end Work

/-! ## Histories -/

section History

variable {logins : Table Credentials} {deeds : List Deed}
  (replays : Desk.Replays Deed.Follows .empty deeds logins)

include replays

/-- What is remembered is what has been installed. -/
theorem remembers_installed
    (id : NodeId)
    (login : Credentials) :
    logins.find? id = some login ↔ Installed deeds id login := by
  induction replays with
  | nil =>
    rw [Table.find?_empty]
    refine iff_of_false (fun absent => by cases absent) ?_
    rintro ⟨before, tag, template, node, key, after, split, -⟩
    simp at split
  | snoc _ follows inductionHypothesis =>
    rw [follows.remembered, Deed.find?_remembered, installed_concat_iff]
    split
    · exact Iff.rfl
    · exact inductionHypothesis

/-- A node is shown with the login that had been installed before it was shown. -/
theorem shows_installed
    {before after : List Deed}
    {deed : Deed}
    (split : deeds = before ++ deed :: after)
    {node : Node}
    (shown : node ∈ deed.shown)
    (login : Credentials) :
    node.credentials = some login ↔ Installed before node.id login := by
  induction replays generalizing after with
  | nil => simp at split
  | snoc earlier follows inductionHypothesis =>
    rcases List.eq_nil_or_concat after with rfl | ⟨rest, last, rfl⟩
    · obtain ⟨rfl, same⟩ := List.append_inj' split rfl
      cases same
      rw [follows.shown node shown]
      exact remembers_installed earlier node.id login
    · rw [List.concat_eq_append, ← List.cons_append, ← List.append_assoc] at split
      exact inductionHypothesis (List.append_inj' split rfl).1

end History

/-- However calls of a backend that remembers nothing at first go on side by side: a node that a
listing or a look shows has a login exactly when the last call that made the node had installed a
key and no call had destroyed the node since, and then the login is that of `root` with that key.
What is remembered changes only when a call has made a node or destroyed one. -/
theorem shown_logins_match_history
    {backend : Backend σ}
    (discreet : backend.Discreet)
    {world : σ}
    (blank : backend.logins.view world = .empty)
    {desk : Desk σ Deed}
    (run : Relation.ReflTransGen (Desk.Moves backend.work backend.logins)
      ⟨world, [], []⟩ desk) :
    (∀ before deed after, desk.answers = before ++ deed :: after →
      ∀ node ∈ deed.shown, ∀ login,
        node.credentials = some login ↔ Installed before node.id login) ∧
    (∀ next, Desk.Moves backend.work backend.logins desk next →
      backend.logins.view next.world ≠ backend.logins.view desk.world →
      ∃ deed id, next.answers = desk.answers ++ [deed] ∧ deed.settled = some id) := by
  obtain ⟨orderly, replays⟩ := Desk.replays_of_moves (settles_work discreet) run
  rw [blank] at replays
  constructor
  · intro before deed after split node shown login
    exact shows_installed replays split shown login
  · intro next moves changed
    obtain ⟨-, ⟨spared, -⟩ | ⟨deed, given, follows⟩⟩ :=
      moves.settled (settles_work discreet) orderly
    · exact absurd spared changed
    · cases settled : deed.settled with
      | some id => exact ⟨deed, id, given, settled⟩
      | none =>
        refine absurd ?_ changed
        rw [follows.remembered, Deed.remembered, settled]

/-- The example interface leaves the remembered logins alone. -/
theorem discreet_makingBackend (powered : Except ScalewayError Unit) :
    (makingBackend powered).Discreet where
  lawful := ⟨fun _ _ => rfl⟩
  freshToken := trivial
  createServer order := by
    refine fun now state => ⟨?_, trivial⟩
    show (makeStopped order state).2.2 = state.2
    rw [makeStopped]
    split <;> rfl
  act id action := by
    show Activity.Spares _ (if _ then _ else _)
    split
    · trivial
    · exact fun now state => ⟨rfl, trivial⟩
  deleteServer id := fun now state => ⟨rfl, trivial⟩
  server id := fun now state => ⟨rfl, trivial⟩
  servers label page := fun now state => ⟨rfl, trivial⟩

/-- A template that installs a key. -/
def keyedTemplate : Template :=
  { bareTemplate with options := { privateKey := some "K" } }

/-- A node is made with a key, and one more creation fails since the name is taken. Then the node is
looked up: it is shown with the login of `root` with the key that was installed. -/
theorem login_shown_after_failed_creation :
    ∃ made shown refusal desk,
      Relation.ReflTransGen
        (Desk.Moves (makingBackend (.ok ())).work (makingBackend (.ok ())).logins)
        ⟨(mixedServers, .empty), [], []⟩ desk ∧
      desk.answers =
        [.created "web" keyedTemplate (.ok made), .created "web" keyedTemplate (.error refusal),
          .got "web-token" (.ok shown)] ∧
      shown.credentials = some { account := "root", key := "K" } := by
  let login : Credentials := { account := "root", key := "K" }
  let server := stoppedServer (Backend.orderFor wholeBackend.config "web-token" "web" keyedTemplate)
  let later : List Server × Table Credentials :=
    (mixedServers ++ [server], Table.empty.insert "web-token" login)
  have batch : server.batch = some "web" := batchOf_of_perm (List.Perm.refl _)
  obtain ⟨node, shows⟩ : ∃ node, server.toNode (some login) = some node := by
    rw [Server.toNode, batch]
    exact ⟨_, rfl⟩
  have made : ((makingBackend (.ok ())).work (.create "web" keyedTemplate)).run 0
    (mixedServers, .empty) = some (.created "web" keyedTemplate (.ok _), 0, later) := rfl
  have refused : ((makingBackend (.ok ())).work (.create "web" keyedTemplate)).run 0 later =
    some (.created "web" keyedTemplate (.error _), 0, later) := rfl
  have looked : ((makingBackend (.ok ())).work (.get "web-token")).run 0 later =
      some (.got "web-token" (.ok node), 0, later) := by
    have answered : ((makingBackend (.ok ())).api.server "web-token").run 0 later =
      some (.ok server, 0, later) := rfl
    have known : ((makingBackend (.ok ())).logins.view later).find? server.id = some login := rfl
    rw [Backend.work, Activity.run_map, Backend.get, Activity.bind_eq_bind,
      Activity.run_bind_of_run answered]
    simp [Backend.loginFor, Activity.run_bind, known, shows]
  have run : Relation.ReflTransGen
      (Desk.Moves (makingBackend (.ok ())).work (makingBackend (.ok ())).logins) _ _ :=
    ((Desk.moves_of_run made [] []).trans (Desk.moves_of_run refused [] _)).trans
      (Desk.moves_of_run looked [] _)
  refine ⟨_, node, _, _, run, rfl, ?_⟩
  have history := shown_logins_match_history (discreet_makingBackend (.ok ())) rfl run
  refine (history.1 [_, _] _ [] rfl node (List.mem_singleton_self _) _).2 ?_
  obtain ⟨tag, -, rfl⟩ := Option.map_eq_some_iff.1 shows
  exact ⟨[], "web", keyedTemplate, _, "K", [_], rfl, rfl, rfl, rfl, by simp [Deed.settled]⟩

end Fleet.Scaleway
