import Fleet.Proofs.Scaleway.Interventions
import Fleet.Proofs.Scaleway.Labels

/-!
# Creations that fail

A node takes two calls: one makes its server, and one powers the server on, unless it starts by
itself. In between it is checked that the server may be powered on. When the first call is refused
there is nothing to take back. When the check or the second call fails, the server is there, with
the label of its batch, and it stays: nothing is asked for that removes it, and the error is all
that the caller is told.
-/

namespace Fleet.Scaleway

variable {σ : Type}

/-- The account holds a server with the label of a batch that it did not hold before. -/
def Account.Gained
    (account : Account σ)
    (tag : String)
    (before after : σ)
    (id : String) :
    Prop :=
  (∃ server ∈ account.servers after, server.id = id ∧ batchLabel tag ∈ server.labels) ∧
    id ∉ (account.servers before).map Server.id

/-- The servers of the account by their names and labels. -/
def Account.labelled (account : Account σ) (state : σ) : List (String × List String) :=
  (account.servers state).map fun server => (server.id, server.labels)

theorem Account.exists_server_iff
    {account : Account σ}
    {state : σ}
    {id label : String} :
    (∃ server ∈ account.servers state, server.id = id ∧ label ∈ server.labels) ↔
      ∃ labels, (id, labels) ∈ account.labelled state ∧ label ∈ labels := by
  constructor
  · rintro ⟨server, held, rfl, carried⟩
    exact ⟨server.labels, List.mem_map.2 ⟨server, held, rfl⟩, carried⟩
  · rintro ⟨labels, listed, carried⟩
    obtain ⟨server, held, same⟩ := List.mem_map.1 listed
    cases same
    exact ⟨server, held, rfl, carried⟩

/-- What was gained does not depend on the state of the servers, but only on their names and
labels. -/
theorem Account.gained_congr
    {account : Account σ}
    {tag : String}
    {before after later : σ}
    (same : account.labelled after = account.labelled later)
    (id : String) :
    account.Gained tag before after id ↔ account.Gained tag before later id := by
  rw [Gained, Gained, exists_server_iff, exists_server_iff, same]

/-- How the interface makes servers in an account: a server that is made is a new one, and carries
the labels that were ordered. Being asked to power on neither makes nor removes nor relabels a
server, whether or not it is done. -/
structure Backend.Provisions (backend : Backend σ) (account : Account σ) : Prop where
  makes : ∀ {order now state created later reached},
    (backend.api.createServer order).run now state = some (.ok created, later, reached) →
    created.id ∉ (account.servers state).map Server.id ∧
      ∃ server ∈ account.servers reached,
        server.id = created.id ∧ order.labels ⊆ server.labels
  powers : ∀ {id now state answer later reached},
    (backend.api.act id .powerOn).run now state = some (answer, later, reached) →
    account.labelled state = account.labelled reached
  names : ∀ {now state token later reached},
    backend.freshToken.run now state = some (token, later, reached) →
    account.servers reached = account.servers state

theorem mem_labelsFor
    (tag : String)
    (template : Template) :
    batchLabel tag ∈ labelsFor tag template := by
  rw [labelsFor_eq]
  exact List.mem_append_left _ (List.mem_append_left _ (List.mem_singleton_self _))

section Course

variable {backend : Backend σ} {now later : Nat} {state reached : σ} {record calls : ApiRecord}

/-- A server that is not powered on was not allowed to be, or it was asked to. -/
theorem failed_powerOn
    {created : Created}
    {error : ScalewayError}
    (failed : (backend.recording.powerOn created).run now (state, record) =
      some (.error error, later, reached, calls)) :
    (error = .powerOnNotAllowed created.id created.state ∧ reached = state ∧ calls = record) ∨
      ((backend.api.act created.id .powerOn).run now state =
        some (.error error, later, reached) ∧ calls = record ++ [.act created.id .powerOn]) := by
  rw [Backend.powerOn] at failed
  split at failed
  case isTrue => cases failed
  case isFalse =>
    split at failed
    case isTrue =>
      change ((ApiCall.act created.id .powerOn).making
        (backend.api.act created.id .powerOn)).run now (state, record) = _ at failed
      rw [run_making, Option.map_eq_some_iff] at failed
      obtain ⟨⟨answer, ended, left⟩, asked, same⟩ := failed
      cases same
      exact .inr ⟨asked, rfl⟩
    case isFalse =>
      cases failed
      exact .inl ⟨rfl, rfl, rfl⟩

/-- A name is found and a server is asked for. Either that is refused, or the server is made and not
powered on. -/
theorem failed_create
    {tag : String}
    {template : Template}
    {error : ScalewayError}
    (failed : (backend.recording.create tag template).run now (state, record) =
      some (.error error, later, reached, calls)) :
    ∃ token begun named answer middle made,
      let order := Backend.orderFor backend.config (tag ++ "-" ++ token) tag template
      backend.freshToken.run now state = some (token, begun, named) ∧
      (backend.api.createServer order).run begun named = some (answer, middle, made) ∧
      ((answer = .error error ∧ reached = made ∧ calls = record ++ [.createServer order]) ∨
        ∃ created, answer = .ok created ∧
          (backend.recording.powerOn created).run middle (made, record ++ [.createServer order]) =
            some (.error error, later, reached, calls)) := by
  rw [Backend.create] at failed
  obtain ⟨token, begun, between, found, failed⟩ := Activity.exists_of_run_bind failed
  change (backend.freshToken.focus (Part.first σ ApiRecord)).run now (state, record) = _ at found
  rw [Activity.run_focus_first, Option.map_eq_some_iff] at found
  obtain ⟨⟨token, begun, named⟩, found, same⟩ := found
  cases same
  obtain ⟨answer, middle, between, asked, failed⟩ := Activity.exists_of_run_bind failed
  change ((ApiCall.createServer _).making (backend.api.createServer _)).run begun (named, record) =
    _ at asked
  rw [run_making, Option.map_eq_some_iff] at asked
  obtain ⟨⟨answer, middle, made⟩, asked, same⟩ := asked
  cases same
  refine ⟨token, begun, named, answer, middle, made, found, asked, ?_⟩
  cases answer with
  | error refusal =>
    cases failed
    exact .inl ⟨rfl, rfl, rfl⟩
  | ok created =>
    obtain ⟨answer, ended, left, powered, failed⟩ := Activity.exists_of_run_bind failed
    cases answer with
    | error refusal =>
      cases failed
      exact .inr ⟨created, rfl, powered⟩
    | ok _ =>
      obtain ⟨_, _, _, _, finished⟩ := Activity.exists_of_run_bind failed
      cases finished

end Course

/-- A creation that fails leaves behind what the call for the server left: nothing is asked for that
removes a server, and the servers of the batch that the account has gained are those it had gained
when that call was answered. So if the server was made, it stays, and then the error only says that
powering it on was not allowed or is what the call to power it on was answered with. -/
theorem failed_creation_leaves_its_server
    {backend : Backend σ}
    {account : Account σ}
    (provisions : backend.Provisions account)
    {tag : String}
    {template : Template}
    {error : ScalewayError}
    {now later : Nat}
    {state reached : σ}
    {calls : ApiRecord}
    (failed : (backend.recording.create tag template).run now (state, []) =
      some (.error error, later, reached, calls)) :
    ∃ token begun named answer middle made,
      let order := Backend.orderFor backend.config (tag ++ "-" ++ token) tag template
      backend.freshToken.run now state = some (token, begun, named) ∧
      (backend.api.createServer order).run begun named = some (answer, middle, made) ∧
      (∀ id, .act id .terminate ∉ calls ∧ .deleteServer id ∉ calls) ∧
      (∀ id, account.Gained tag state reached id ↔ account.Gained tag state made id) ∧
      ∀ created, answer = .ok created →
        account.Gained tag state reached created.id ∧
        ((error = .powerOnNotAllowed created.id created.state ∧ calls = [.createServer order]) ∨
          ((backend.api.act created.id .powerOn).run middle made =
              some (.error error, later, reached) ∧
            calls = [.createServer order, .act created.id .powerOn])) := by
  obtain ⟨token, begun, named, answer, middle, made, found, asked, course⟩ :=
    failed_create failed
  have untouched := provisions.names found
  refine ⟨token, begun, named, answer, middle, made, found, asked, ?_⟩
  rcases course with ⟨rfl, rfl, rfl⟩ | ⟨created, rfl, unpowered⟩
  · exact ⟨by simp, fun _ => .rfl, fun _ answered => by cases answered⟩
  · obtain ⟨fresh, server, held, same, labelled⟩ := provisions.makes asked
    have carried : batchLabel tag ∈ server.labels := labelled (mem_labelsFor tag template)
    have gained : account.Gained tag state made created.id :=
      ⟨⟨server, held, same, carried⟩, by rwa [← untouched]⟩
    rcases failed_powerOn unpowered with ⟨rfl, rfl, rfl⟩ | ⟨refused, rfl⟩
    · refine ⟨by simp, fun _ => .rfl, ?_⟩
      rintro _ ⟨⟩
      exact ⟨gained, .inl ⟨rfl, rfl⟩⟩
    · have kept : ∀ id, account.Gained tag state made id ↔
        account.Gained tag state reached id :=
        Account.gained_congr (provisions.powers refused)
      refine ⟨by simp, fun id => (kept id).symm, ?_⟩
      rintro _ ⟨⟩
      exact ⟨(kept created.id).1 gained, .inr ⟨refused, rfl⟩⟩

/-! ## An instance

An interface that makes stopped servers, and that gives one answer to all that ask for power. -/

/-- The server that is made from an order. -/
def stoppedServer (order : ServerOrder) : Server :=
  { id := order.name, name := order.name, state := "stopped", allowedActions := ["poweron"],
    labels := order.labels, zone := "fr-par-1" }

/-- Make a server, unless one has the name. -/
def makeStopped (order : ServerOrder) (world : List Server × Table Credentials) :
    Except ScalewayError Created × List Server × Table Credentials :=
  if (serverOf world.1 order.name).isSome then
    (.error (.http "POST" "servers" 409 ""), world)
  else
    (.ok ⟨order.name, "stopped", ["poweron"], none⟩, world.1 ++ [stoppedServer order], world.2)

/-- The backend that works on the account and makes servers there. -/
def makingBackend (powered : Except ScalewayError Unit) :
    Backend (List Server × Table Credentials) :=
  { wholeBackend with
    api :=
      { wholeBackend.api with
        createServer := fun order => .perform fun _ world => makeStopped order world
        act := fun id action =>
          if action = .powerOn then .done powered else wholeBackend.api.act id action }
    freshToken := .done "token" }

/-- The example interface makes servers as it should. -/
theorem provisions_makingBackend (powered : Except ScalewayError Unit) :
    (makingBackend powered).Provisions wholeAccount where
  makes := by
    intro order now state created later reached made
    change some ((makeStopped order state).1, now, (makeStopped order state).2) = _ at made
    rw [makeStopped] at made
    split at made
    case isTrue => cases made
    case isFalse unknown =>
      cases made
      refine ⟨fun held => unknown ?_, stoppedServer order,
        List.mem_append_right _ (List.mem_singleton_self _), rfl, List.Subset.refl _⟩
      obtain ⟨server, among, same⟩ := List.mem_map.1 held
      exact List.find?_isSome.2 ⟨server, among, beq_of_eq same⟩
  powers := by
    rintro id now state answer later reached ⟨⟩
    rfl
  names := by
    rintro now state token later reached ⟨⟩
    rfl

/-- A template that asks for nothing in particular. -/
def bareTemplate : Template where
  image := ⟨"image", "", .unrecognized, "", "x86_64", "1", none⟩
  size := ⟨"size", 1, 1, 1, []⟩
  location := .root "fr-par-1" ""
  options := {}

/-- The server of a node that could not be powered on is in the account, with the label of its
batch, and the caller is told that there are too many servers. -/
theorem unpowered_server_is_left :
    let refusal : ScalewayError := .api "quotas_exceeded" "too many"
    let order := Backend.orderFor wholeBackend.config "web-token" "web" bareTemplate
    ((makingBackend (.error refusal)).recording.create "web" bareTemplate).run 0
        (([], .empty), []) =
        some (.error refusal, 0, ([stoppedServer order], .empty),
          [.createServer order, .act "web-token" .powerOn]) ∧
      wholeAccount.Gained "web" ([], .empty) ([stoppedServer order], .empty) "web-token" := by
  intro refusal order
  have failed : ((makingBackend (.error refusal)).recording.create "web" bareTemplate).run 0
      (([], .empty), []) = some (.error refusal, 0, ([stoppedServer order], .empty),
        [.createServer order, .act "web-token" .powerOn]) := rfl
  refine ⟨failed, ?_⟩
  obtain ⟨token, begun, named, answer, middle, made, found, asked, -, -, left⟩ :=
    failed_creation_leaves_its_server (provisions_makingBackend (.error refusal)) failed
  cases found
  cases asked
  exact (left _ rfl).1

end Fleet.Scaleway
