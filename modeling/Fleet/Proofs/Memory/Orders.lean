import Fleet.Proofs.Memory.Remembered
import Fleet.Proofs.Memory.Strangers

/-!
# Nodes as ordered

Every node of an account goes back to one accepted creation, and keeps the login that it was given
there: the key that the template installs, or else a generated one. A template may install an empty
key, and then every record of the node that shows its login is malformed. Nothing else makes the
records of an account malformed.
-/

namespace Fleet

namespace Memory

/-- The logins of the nodes that are made from a template. -/
inductive Equips (template : Template) : Credentials → Prop
  | installed {key : String} (asked : template.options.privateKey = some key) :
    Equips template { account := Account.loginAccount, key := key }
  | generated (unasked : template.options.privateKey = none) (token : String) :
    Equips template { account := Account.loginAccount, key := "stub-key-" ++ token }

/-- A node is made with a complete login unless its template asks for an empty key. -/
theorem Equips.isComplete
    {template : Template}
    {login : Credentials}
    (equips : Equips template login) :
    login.isComplete = !(template.options.privateKey == some "") := by
  have named : Text.isBlankText Account.loginAccount = false := by decide +kernel
  cases equips with
  | installed asked =>
    rename_i key
    rw [asked, Credentials.isComplete, named]
    by_cases empty : key = ""
    · subst empty
      rfl
    · simp [empty, String.isEmpty]
  | generated unasked token =>
    have present : ("stub-key-" ++ token).isEmpty = false := by
      simp
    rw [unasked, Credentials.isComplete, named, present]
    rfl

theorem HasNumber.hasAddress
    {index : Nat}
    {record : Node}
    (number : HasNumber index record) :
    record.hasAddress = true := by
  rw [Node.hasAddress, number.publicAddresses]
  rfl

theorem Equips.checkInvariants
    {template : Template}
    {login : Credentials}
    {record : Node}
    (equips : Equips template login)
    (addressed : record.hasAddress = true)
    (held : record.credentials = some login) :
    record.checkInvariants =
      if template.options.privateKey = some "" then .error (.incompleteCredentials record.id)
      else .ok () := by
  simp [Node.checkInvariants, addressed, held, equips.isComplete]

theorem checkInvariants_of_withheld
    {record : Node}
    (addressed : record.hasAddress = true)
    (withheld : record.credentials = none) :
    record.checkInvariants = .ok () := by
  simp [Node.checkInvariants, addressed, withheld]

namespace Account

variable {account : Account}

/-- A new node has one of the logins of its template. -/
theorem equips_newNode
    (account : Account)
    (tag : String)
    (template : Template)
    (location : LocationId) :
    ∃ login, (account.newNode tag template location).record.credentials = some login ∧
      Equips template login := by
  refine ⟨_, rfl, ?_⟩
  cases asked : template.options.privateKey with
  | some key =>
    have installed : (account.keyFor template).1 = key := by rw [keyFor, asked]
    rw [installed]
    exact Equips.installed asked
  | none =>
    have generated : (account.keyFor template).1 = "stub-key-" ++ account.keys.next := by
      rw [keyFor, asked]
    rw [generated]
    exact Equips.generated asked _

/-! ## Orders -/

/-- In the course of a history a client is told that a node was created from a template. -/
inductive Ordered : Account → List Event → NodeId → Template → Prop
  | now {account : Account} {client : Client} {tag : String} {template : Template} {born : Node}
      (answered : account.reply client (.create tag template) = .ok (.node born))
      (later : List Event) :
    Ordered account (.request client (.create tag template) :: later) born.id template
  | later {account : Account} {event : Event} {history : List Event} {id : NodeId}
      {template : Template} (ordered : Ordered (account.next event) history id template) :
    Ordered account (event :: history) id template

namespace Ordered

variable {history : List Event} {id : NodeId} {template : Template}

/-- A name that is still to be given belongs to no node. -/
theorem fresh
    (ordered : account.Ordered history id template)
    (numbered : account.Numbered) :
    account.nodes.find? id = none := by
  induction ordered with
  | now answered => exact numbered.fresh_of_created answered
  | later ordered inductionHypothesis =>
    rename_i account event history id template
    cases found : account.nodes.find? id with
    | none => rfl
    | some node =>
      rcases numbered.kept_next event found with ⟨later, kept, _⟩
      rw [inductionHypothesis (numbered.next event)] at kept
      cases kept

theorem not_of_answered
    {client : Client}
    {tag : String}
    {born : Node}
    (numbered : account.Numbered)
    (answered : account.reply client (.create tag template) = .ok (.node born))
    {other : Template} :
    ¬ (account.next (.request client (.create tag template))).Ordered history born.id other := by
  intro again
  rcases numbered.shows_answer answered (List.mem_singleton_self born) with ⟨node, found, _⟩
  rw [again.fresh (numbered.next _)] at found
  cases found

/-- A name is ordered once: the first of two orders would have stored a node, which outlasts the
history up to the second one. -/
theorem unique
    {other : Template}
    (ordered : account.Ordered history id template)
    (again : account.Ordered history id other)
    (numbered : account.Numbered) :
    other = template := by
  induction ordered with
  | now answered =>
    rename_i account client tag template born later
    generalize same : born.id = id at again
    cases again with
    | now => rfl
    | later again =>
      subst same
      exact absurd again (not_of_answered numbered answered)
  | later ordered inductionHypothesis =>
    cases again with
    | now answered => exact absurd ordered (not_of_answered numbered answered)
    | later again => exact inductionHypothesis again (numbered.next _)

end Ordered

/-- After a history every node continues one from before it, or it has the login of its order. -/
theorem origin_after
    (account : Account)
    (history : List Event)
    {id : NodeId}
    {node : AccountNode}
    (found : (account.after history).nodes.find? id = some node) :
    (∃ earlier, account.nodes.find? id = some earlier ∧ Continues earlier node) ∨
    ∃ template login, account.Ordered history id template ∧
      node.record.credentials = some login ∧ Equips template login := by
  induction history generalizing account with
  | nil => exact Or.inl ⟨node, found, Continues.refl node⟩
  | cons event later inductionHypothesis =>
    rcases inductionHypothesis (account.next event) found with
      ⟨middle, foundMiddle, continues⟩ | ⟨template, login, ordered, held, equips⟩
    · rcases next_cases account event with
        revises | ⟨client, tag, template, location, rfl, _, answered, created⟩
      · rcases revises.origin foundMiddle with ⟨earlier, foundEarlier, continuesEarlier⟩
        exact Or.inl ⟨earlier, foundEarlier, continuesEarlier.trans continues⟩
      · rw [created, find?_created] at foundMiddle
        split at foundMiddle
        next named =>
          cases foundMiddle
          rcases equips_newNode account tag template location with ⟨login, held, equips⟩
          refine Or.inr ⟨template, login, ?_, ?_, equips⟩
          · rw [← named]
            exact Ordered.now answered later
          · rw [continues.record]
            exact held
        next => exact Or.inl ⟨middle, foundMiddle, continues⟩
    · exact Or.inr ⟨template, login, ordered.later, held, equips⟩

/-! ## Records -/

/-- A record that an account shows of a node lacks at most the login, if the account withholds it.
-/
theorem Shows.cases
    {record : Node}
    (shows : account.Shows record) :
    ∃ node, account.nodes.find? record.id = some node ∧
      (record = node.record ∨
        (account.withholdsCredentials = true ∧
          record = { node.record with credentials := none })) := by
  rcases shows with ⟨node, found, same | seen⟩
  · exact ⟨node, found, Or.inl same⟩
  · refine ⟨node, found, ?_⟩
    rw [shown] at seen
    split at seen
    next withheld => exact Or.inr ⟨withheld, seen⟩
    next => exact Or.inl seen

/-- Every record that a client is given has an address, and a login that fits the one order of its
node, unless the account withholds it. It is well-formed, whatever state the node is in, except that
a login with an empty key, which the order has asked to install, is shown as it is. -/
theorem malformed_exactly_when_empty_key_is_shown
    (catalog : Catalog)
    (identity secret : String)
    (keys : TokenSupply)
    (history : List Event)
    {asker : Client}
    {request : Request}
    {answer : Answer}
    (answered : ((opened catalog identity secret keys).after history).reply asker request =
      .ok answer)
    {record : Node}
    (returned : record ∈ answer.records) :
    ∃ template,
      (∀ other, (opened catalog identity secret keys).Ordered
          (history ++ [.request asker request]) record.id other ↔ other = template) ∧
      record.hasAddress = true ∧
      (∀ login, record.credentials = some login → Equips template login) ∧
      (record.credentials = none →
        ((opened catalog identity secret keys).after
          (history ++ [.request asker request])).withholdsCredentials = true) ∧
      record.checkInvariants =
        if record.credentials.isSome = true ∧ template.options.privateKey = some "" then
          .error (.incompleteCredentials record.id)
        else .ok () := by
  have start := Numbered.opened catalog identity secret keys
  have shows := (start.after history).shows_answer answered returned
  have reached : (opened catalog identity secret keys).after
      (history ++ [.request asker request]) =
        ((opened catalog identity secret keys).after history).next (.request asker request) :=
    after_append _ _ _
  rw [← reached] at shows
  rcases shows.cases with ⟨node, found, shape⟩
  rcases origin_after _ _ found with
    ⟨earlier, foundEarlier, _⟩ | ⟨template, login, ordered, held, equips⟩
  · cases foundEarlier
  · have addressed : node.record.hasAddress = true := by
      rcases (start.after _).numbered _ node found with ⟨index, _, _, number⟩
      exact number.hasAddress
    refine ⟨template, ?_, ?_⟩
    · intro other
      constructor
      · intro again
        exact ordered.unique again start
      · rintro rfl
        exact ordered
    · rcases shape with rfl | ⟨withheld, rfl⟩
      · refine ⟨addressed, ?_, ?_, ?_⟩
        · intro shown same
          rw [held] at same
          cases same
          exact equips
        · intro missing
          rw [held] at missing
          cases missing
        · simpa [held] using equips.checkInvariants addressed held
      · exact ⟨addressed, nofun, fun _ => withheld, checkInvariants_of_withheld addressed rfl⟩

/-! ## An instance -/

/-- A template that installs an empty key. -/
def keylessOrder : Template where
  image := freeImage "image" "Image" "1"
  size := standardSize "size" 1 1024 20
  location := { id := "zone", scope := .zone, description := "Zone", parent := none }
  options := { privateKey := some "" }

def customer : Client := { identity := "owner", secret := "secret" }

/-- The node that is ordered here runs from its first poll on. -/
def promptHistory : List Event :=
  [.arrangement (.bootPolls 0), .request customer (.create "web" keylessOrder)]

/-- The record of a running node without a key is malformed. -/
theorem running_without_key_is_malformed :
    ∃ record, ((opened defaultCatalog "owner" "secret" { label := 1 }).after promptHistory).reply
        customer (.get "stub-1") = .ok (.node record) ∧
      record.state = .running ∧
      record.checkInvariants = .error (.incompleteCredentials "stub-1") := by
  obtain ⟨record, answered, name, running, shown⟩ : ∃ record,
      ((opened defaultCatalog "owner" "secret" { label := 1 }).after promptHistory).reply
        customer (.get "stub-1") = .ok (.node record) ∧
      record.id = "stub-1" ∧ record.state = .running ∧ record.credentials.isSome = true :=
    ⟨_, rfl, rfl, rfl, rfl⟩
  obtain ⟨born, created, named⟩ : ∃ born,
      ((opened defaultCatalog "owner" "secret" { label := 1 }).next
        (.arrangement (.bootPolls 0))).reply customer (.create "web" keylessOrder) =
          .ok (.node born) ∧ born.id = record.id :=
    ⟨_, rfl, name.symm⟩
  have ordered : (opened defaultCatalog "owner" "secret" { label := 1 }).Ordered
      (promptHistory ++ [.request customer (.get "stub-1")]) record.id keylessOrder := by
    rw [← named]
    exact Ordered.later (Ordered.now created _)
  rcases malformed_exactly_when_empty_key_is_shown _ _ _ _ _ answered
    (List.mem_singleton_self record) with ⟨template, orders, _, _, _, checked⟩
  cases (orders keylessOrder).1 ordered
  rw [if_pos ⟨shown, rfl⟩, name] at checked
  exact ⟨record, answered, running, checked⟩

end Account

end Memory

end Fleet
