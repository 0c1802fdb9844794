import Fleet.Memory.Account

/-!
# Histories of an account

Clients ask and the owner arranges how the account behaves. Each request is one operation that has
the account to itself, so whatever several clients ask, interleaved in whatever way, is one sequence
of events. A history is such a sequence, and the reachable accounts are those to which a history
leads from an account that has just been opened.
-/

namespace Fleet.Memory

/-- What a client asks of an account. -/
inductive Request where
  | create (tag : String) (template : Template)
  | list (tag : Option String)
  | get (id : NodeId)
  | reboot (id : NodeId)
  | destroy (id : NodeId)
  | readCatalog
  deriving DecidableEq

/-- What an account answers when it does not refuse. -/
inductive Answer where
  | node (record : Node)
  | nodes (records : List Node)
  | accepted
  | catalog (catalog : Catalog)
  deriving DecidableEq

/-- How the owner lets an account behave from now on. -/
inductive Arrangement where
  /-- The polls that a boot takes. -/
  | bootPolls (count : Nat)
  /-- The creations that fail. -/
  | failingCreates (count : Nat)
  /-- The creations whose boot fails. -/
  | failingBoots (count : Nat)
  /-- A node whose destruction fails, and how. -/
  | destroyFault (id : NodeId) (kind : FailureKind)
  /-- A node that stays although its destruction is accepted. -/
  | lingering (id : NodeId)
  /-- Listings and look-ups leave credentials out. -/
  | withheldCredentials
  deriving DecidableEq

/-- Something that happens to an account. -/
inductive Event where
  | request (client : Client) (request : Request)
  | arrangement (arrangement : Arrangement)
  deriving DecidableEq

/-- An operation whose result is put in another form. -/
def Operation.andThen {α β : Type} (operation : Operation α) (form : α → β) : Operation β :=
  fun account => ((operation account).1.map form, (operation account).2)

/-- The operation that a request asks for. -/
def Request.operation : Request → Operation Answer
  | create tag template => Operation.andThen (Account.create tag template) .node
  | list tag => Operation.andThen (Account.list tag) .nodes
  | get id => Operation.andThen (Account.get id) .node
  | reboot id => Operation.andThen (Account.reboot id) fun _ => .accepted
  | destroy id => Operation.andThen (Account.destroy id) fun _ => .accepted
  | readCatalog => Operation.andThen (Account.readCatalog id) .catalog

namespace Account

/-- A new account without nodes that behaves as usual. -/
def opened (catalog : Catalog) (identity secret : String) (keys : TokenSupply) : Account :=
  { catalog := catalog, identity := identity, secret := secret, keys := keys }

/-- The account with an arrangement made. -/
def arrange (account : Account) : Arrangement → Account
  | .bootPolls count => { account with bootPolls := count }
  | .failingCreates count => { account with failingCreates := count }
  | .failingBoots count => { account with failingBoots := count }
  | .destroyFault id kind => { account with destroyFaults := account.destroyFaults.insert id kind }
  | .lingering id => { account with lingering := account.lingering.insert id () }
  | .withheldCredentials => { account with withholdsCredentials := true }

/-- The answer to a client's request. -/
def reply (account : Account) (client : Client) (request : Request) : Except AccountError Answer :=
  (authorized client request.operation account).1

/-- The account after an event. -/
def next (account : Account) : Event → Account
  | .request client request => (authorized client request.operation account).2
  | .arrangement arrangement => account.arrange arrangement

/-- The account after a history. -/
def after (account : Account) (history : List Event) : Account :=
  history.foldl next account

/-- Some history leads to the account from a new one. -/
def Reachable (account : Account) : Prop :=
  ∃ catalog identity secret keys history,
    account = (opened catalog identity secret keys).after history

@[simp]
theorem after_nil (account : Account) : account.after [] = account := rfl

@[simp]
theorem after_cons
    (account : Account)
    (event : Event)
    (history : List Event) :
    account.after (event :: history) = (account.next event).after history := rfl

theorem after_append
    (account : Account)
    (first second : List Event) :
    account.after (first ++ second) = (account.after first).after second :=
  List.foldl_append

theorem Reachable.after
    {account : Account}
    (reachable : account.Reachable)
    (history : List Event) :
    (account.after history).Reachable := by
  obtain ⟨catalog, identity, secret, keys, earlier, rfl⟩ := reachable
  exact ⟨catalog, identity, secret, keys, earlier ++ history, (after_append _ _ _).symm⟩

end Account

end Fleet.Memory
