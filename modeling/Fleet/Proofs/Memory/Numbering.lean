import Fleet.Proofs.Memory.Operation

/-!
# The numbers of nodes

A node carries the number under which it was created in its name and in both of its addresses, and
numbers are given out in ascending order. So a new node clashes with no earlier one, and the tag
index and the nodes stay in step. `Numbered` is the invariant: every event keeps it, and under it
every node outlasts every history.
-/

namespace Fleet

/-- Whether an address belongs to the node. -/
def Node.owns (record : Node) (address : Address) : Bool :=
  record.publicAddresses.contains address || record.privateAddresses.contains address

namespace Memory

/-! ## Numbers -/

/-- The name of the node with a number. -/
def numberedName (index : Nat) : NodeId := s!"stub-{index}"

/-- A record that was made under a number. -/
structure HasNumber (index : Nat) (record : Node) : Prop where
  id : record.id = numberedName index
  publicAddresses : record.publicAddresses = [.v4 198 51 100 index]
  privateAddresses : record.privateAddresses = [.v4 10 0 0 index]

theorem numberedName_injective
    {first second : Nat}
    (same : numberedName first = numberedName second) :
    first = second := by
  have texts : first.repr = second.repr := by
    simpa [numberedName] using same
  have digits : Nat.toDigits 10 first = Nat.toDigits 10 second := by
    rw [← Nat.toList_repr, ← Nat.toList_repr, texts]
  calc
    first = Nat.ofDigitChars 10 (Nat.toDigits 10 first) 0 := Nat.ofDigitChars_ten_toDigits.symm
    _ = Nat.ofDigitChars 10 (Nat.toDigits 10 second) 0 := by rw [digits]
    _ = second := Nat.ofDigitChars_ten_toDigits

namespace HasNumber

variable {index first second : Nat} {left right : Node}

theorem newRecord
    (index : Nat)
    (tag : String)
    (template : Template)
    (location : LocationId)
    (key : String) :
    HasNumber index (Account.newRecord index tag template location key) :=
  ⟨rfl, rfl, rfl⟩

theorem continued
    {earlier later : AccountNode}
    (number : HasNumber index earlier.record)
    (continues : Continues earlier later) :
    HasNumber index later.record := by
  rw [continues.record]
  exact ⟨number.id, number.publicAddresses, number.privateAddresses⟩

theorem owns_iff
    (number : HasNumber index left)
    (address : Address) :
    left.owns address = true ↔ address = .v4 198 51 100 index ∨ address = .v4 10 0 0 index := by
  simp [Node.owns, number.publicAddresses, number.privateAddresses]

/-- An address tells the number of the node that owns it. -/
theorem eq_of_owns
    (firstNumber : HasNumber first left)
    (secondNumber : HasNumber second right)
    {address : Address}
    (ownedLeft : left.owns address = true)
    (ownedRight : right.owns address = true) :
    first = second := by
  rcases (firstNumber.owns_iff address).1 ownedLeft with rfl | rfl <;>
    rcases (secondNumber.owns_iff _).1 ownedRight with same | same <;>
    simp_all

end HasNumber

/-! ## The invariant -/

namespace Account

/-- The index lists a name under a tag. -/
def Indexes (account : Account) (tag : String) (id : NodeId) : Prop :=
  ∃ names, account.tags.find? tag = some names ∧ id ∈ names.keys

/-- The invariant of histories: nodes are kept under the names that their numbers make, no number is
ahead of the count, and the index lists the nodes by their tags. -/
structure Numbered (account : Account) : Prop where
  named : ∀ id node, account.nodes.find? id = some node → node.record.id = id
  numbered : ∀ id node, account.nodes.find? id = some node →
    ∃ index, index ≤ account.lastIndex ∧ index ≤ lastHost ∧ HasNumber index node.record
  indexed : ∀ tag id, account.Indexes tag id ↔
    ∃ node, account.nodes.find? id = some node ∧ node.record.tag = tag

/-- The node that a creation stores. -/
def newNode
    (account : Account)
    (tag : String)
    (template : Template)
    (location : LocationId) :
    AccountNode :=
  { record := newRecord (account.lastIndex + 1) tag template location (account.keyFor template).1
    pollsLeft := account.bootPolls
    failsToBoot := 0 < account.failingBoots }

theorem find?_created
    (account : Account)
    (tag : String)
    (template : Template)
    (location : LocationId)
    (id : NodeId) :
    (account.created tag template location).nodes.find? id =
      if numberedName (account.lastIndex + 1) = id then some (account.newNode tag template location)
      else account.nodes.find? id :=
  Table.find?_insert account.nodes _ id (account.newNode tag template location)

/-- A created node enters the index under its tag. -/
theorem indexes_created
    (account : Account)
    (tag : String)
    (template : Template)
    (location : LocationId)
    (other : String)
    (id : NodeId) :
    (account.created tag template location).Indexes other id ↔
      (tag = other ∧ id = numberedName (account.lastIndex + 1)) ∨ account.Indexes other id := by
  have names : (account.created tag template location).tags =
      account.tags.insert tag (((account.tags.find? tag).getD Table.empty).insert
        (numberedName (account.lastIndex + 1)) ()) := rfl
  unfold Indexes
  rw [names, Table.find?_insert]
  by_cases same : tag = other
  · subst same
    simp only [if_true, Option.some.injEq, exists_eq_left', Table.mem_keys_insert_iff, true_and]
    cases account.tags.find? tag with
    | none => simp [Table.keys, Table.empty]
    | some held => simp
  · simp [same]

namespace Numbered

/-- An account is opened without any nodes. -/
theorem opened
    (catalog : Catalog)
    (identity secret : String)
    (keys : TokenSupply) :
    (Account.opened catalog identity secret keys).Numbered where
  named id node found := by
    cases found
  numbered id node found := by
    cases found
  indexed tag id := by
    constructor
    · rintro ⟨names, found, _⟩
      cases found
    · rintro ⟨node, found, _⟩
      cases found

/-- Nodes are still numbered after a revision. -/
theorem revised
    {before after : Account}
    (numbered : before.Numbered)
    (revises : Revises before after) :
    after.Numbered where
  named id later found := by
    obtain ⟨node, foundNode, continues⟩ := revises.origin found
    rw [continues.id_eq]
    exact numbered.named id node foundNode
  numbered id later found := by
    obtain ⟨node, foundNode, continues⟩ := revises.origin found
    obtain ⟨index, counted, inPool, number⟩ := numbered.numbered id node foundNode
    have given := revises.numbers
    exact ⟨index, by omega, inPool, number.continued continues⟩
  indexed tag id := by
    have same : after.Indexes tag id ↔ before.Indexes tag id := by
      rw [Indexes, Indexes, revises.tags]
    rw [same, numbered.indexed]
    constructor
    · rintro ⟨node, found, tagged⟩
      obtain ⟨later, foundLater, continues⟩ := revises.kept id node found
      exact ⟨later, foundLater, continues.tag_eq.trans tagged⟩
    · rintro ⟨later, found, tagged⟩
      obtain ⟨node, foundNode, continues⟩ := revises.origin found
      exact ⟨node, foundNode, continues.tag_eq.symm.trans tagged⟩

/-- No node has the name that the next number makes. -/
theorem fresh
    {account : Account}
    (numbered : account.Numbered)
    {index : Nat}
    (ahead : account.lastIndex < index) :
    account.nodes.find? (numberedName index) = none := by
  cases found : account.nodes.find? (numberedName index) with
  | none => rfl
  | some node =>
    obtain ⟨other, counted, _, number⟩ := numbered.numbered _ node found
    have same : numberedName other = numberedName index := by
      rw [← number.id]
      exact numbered.named _ node found
    have equal := numberedName_injective same
    omega

/-- A created node takes no other one's name. -/
theorem find?_created_of_found
    {account : Account}
    (numbered : account.Numbered)
    (tag : String)
    (template : Template)
    (location : LocationId)
    {id : NodeId}
    {node : AccountNode}
    (found : account.nodes.find? id = some node) :
    (account.created tag template location).nodes.find? id = some node := by
  rw [find?_created, if_neg, found]
  rintro rfl
  rw [numbered.fresh (Nat.lt_succ_self _)] at found
  cases found

/-- Nodes are still numbered after a creation. The next name is free, so storing the new node
replaces none. -/
theorem created
    {account : Account}
    (numbered : account.Numbered)
    (tag : String)
    (template : Template)
    (location : LocationId)
    (inPool : account.lastIndex + 1 ≤ lastHost) :
    (account.created tag template location).Numbered := by
  have found : ∀ {id : NodeId} {node : AccountNode},
      (account.created tag template location).nodes.find? id = some node →
        (id = numberedName (account.lastIndex + 1) ∧
          node = account.newNode tag template location) ∨
          account.nodes.find? id = some node := by
    intro id node held
    rw [find?_created] at held
    split at held
    · rename_i same
      exact Or.inl ⟨same.symm, (Option.some.inj held).symm⟩
    · exact Or.inr held
  refine ⟨?_, ?_, ?_⟩
  · intro id node held
    rcases found held with ⟨rfl, rfl⟩ | old
    · rfl
    · exact numbered.named id node old
  · intro id node held
    rcases found held with ⟨rfl, rfl⟩ | old
    · exact ⟨account.lastIndex + 1, Nat.le_refl _, inPool, HasNumber.newRecord _ _ _ _ _⟩
    · obtain ⟨index, counted, small, number⟩ := numbered.numbered id node old
      exact ⟨index, Nat.le_succ_of_le counted, small, number⟩
  · intro other id
    rw [indexes_created, numbered.indexed, find?_created]
    have fresh := numbered.fresh (Nat.lt_succ_self account.lastIndex)
    by_cases same : numberedName (account.lastIndex + 1) = id
    · subst same
      simp [fresh, newNode, newRecord]
    · simp [same, Ne.symm same]

end Numbered

/-! ## Histories -/

/-- What a request does: it creates a node under the next number, or it revises the account. -/
theorem request_cases
    (request : Request)
    (account : Account) :
    Revision account (request.operation account) ∨
    ∃ tag template location, request = .create tag template ∧
      account.lastIndex + 1 ≤ lastHost ∧
      request.operation account =
        (.ok (.node (account.newNode tag template location).record),
          account.created tag template location) := by
  cases request with
  | create tag template =>
    rcases create_cases tag template account with revision | ⟨inPool, location, _, created⟩
    · exact Or.inl (revision.andThen Answer.node)
    · refine Or.inr ⟨tag, template, location, rfl, inPool, ?_⟩
      simp only [Request.operation, Operation.andThen, created]
      rfl
  | list tag => exact Or.inl ((Revision.list tag account).andThen Answer.nodes)
  | get id => exact Or.inl ((Revision.get id account).andThen Answer.node)
  | reboot id => exact Or.inl ((Revision.reboot id account).andThen fun _ => Answer.accepted)
  | destroy id => exact Or.inl ((Revision.destroy id account).andThen fun _ => Answer.accepted)
  | readCatalog => exact Or.inl ((Revision.readCatalog id account).andThen Answer.catalog)

theorem authorized_of_admits
    {α : Type}
    {account : Account}
    {client : Client}
    (admitted : account.admits client = true)
    (operation : Operation α) :
    authorized client operation account = operation account :=
  if_pos admitted

theorem authorized_of_not_admits
    {α : Type}
    {account : Account}
    {client : Client}
    (refused : ¬ account.admits client = true)
    (operation : Operation α) :
    authorized client operation account = (.error (.unauthorized client.identity), account) :=
  if_neg refused

theorem reply_of_admits
    {account : Account}
    {client : Client}
    (admitted : account.admits client = true)
    (request : Request) :
    account.reply client request = (request.operation account).1 :=
  congrArg Prod.fst (authorized_of_admits admitted request.operation)

theorem next_of_admits
    {account : Account}
    {client : Client}
    (admitted : account.admits client = true)
    (request : Request) :
    account.next (.request client request) = (request.operation account).2 :=
  congrArg Prod.snd (authorized_of_admits admitted request.operation)

theorem reply_of_not_admits
    {account : Account}
    {client : Client}
    (stranger : ¬ account.admits client = true)
    (request : Request) :
    account.reply client request = .error (.unauthorized client.identity) :=
  congrArg Prod.fst (authorized_of_not_admits stranger request.operation)

theorem next_of_not_admits
    {account : Account}
    {client : Client}
    (stranger : ¬ account.admits client = true)
    (request : Request) :
    account.next (.request client request) = account :=
  congrArg Prod.snd (authorized_of_not_admits stranger request.operation)

section Admitted

variable {account : Account} {client : Client} (admitted : account.admits client = true)

include admitted

theorem reply_list (tag : Option String) :
    account.reply client (.list tag) =
      .ok (.nodes ((account.listed tag).filterMap account.pollView)) := by
  rw [reply_of_admits admitted, Request.operation, Operation.andThen, list_eq]
  rfl

theorem next_list (tag : Option String) :
    account.next (.request client (.list tag)) = (account.listed tag).foldl polling account := by
  rw [next_of_admits admitted, Request.operation, Operation.andThen, list_eq]

theorem reply_get (id : NodeId) :
    account.reply client (.get id) =
      (account.pollView id).elim (.error (.nodeNotFound id)) fun record => .ok (.node record) := by
  rw [reply_of_admits admitted, Request.operation, Operation.andThen, get_eq]
  cases account.pollView id <;> rfl

theorem next_get (id : NodeId) :
    account.next (.request client (.get id)) = account.polling id := by
  rw [next_of_admits admitted, Request.operation, Operation.andThen, get_eq]

end Admitted

theorem admits_of_answered
    {account : Account}
    {client : Client}
    {request : Request}
    {answer : Answer}
    (answered : account.reply client request = .ok answer) :
    account.admits client = true := by
  by_contra stranger
  rw [reply_of_not_admits stranger] at answered
  cases answered

/-- An event either revises the account, or it is a request that creates a node under the next
number. -/
theorem next_cases
    (account : Account)
    (event : Event) :
    Revises account (account.next event) ∨
    ∃ client tag template location, event = .request client (.create tag template) ∧
      account.lastIndex + 1 ≤ lastHost ∧
      account.reply client (.create tag template) =
        .ok (.node (account.newNode tag template location).record) ∧
      account.next event = account.created tag template location := by
  cases event with
  | arrangement arrangement => exact Or.inl (Revises.arrange account arrangement)
  | request client request =>
    by_cases admitted : account.admits client = true
    · rw [next_of_admits admitted]
      rcases request_cases request account with
        revision | ⟨tag, template, location, rfl, inPool, created⟩
      · exact Or.inl revision.revises
      · refine Or.inr ⟨client, tag, template, location, rfl, inPool, ?_, ?_⟩
        · rw [reply_of_admits admitted, created]
        · rw [created]
    · rw [next_of_not_admits admitted]
      exact Or.inl (Revises.refl account)

/-- No request is answered with a breach of the lifecycle. -/
theorem reply_ne_lifecycle
    (account : Account)
    (client : Client)
    (request : Request)
    (source : NodeError) :
    account.reply client request ≠ .error (.lifecycle source) := by
  intro failed
  by_cases admitted : account.admits client = true
  · rw [reply_of_admits admitted] at failed
    rcases request_cases request account with revision | ⟨_, _, _, _, _, created⟩
    · exact revision.lawful source failed
    · rw [created] at failed
      cases failed
  · rw [reply_of_not_admits admitted] at failed
    cases failed

theorem Numbered.next
    {account : Account}
    (numbered : account.Numbered)
    (event : Event) :
    (account.next event).Numbered := by
  rcases next_cases account event with
    revises | ⟨_, tag, template, location, _, inPool, _, created⟩
  · exact numbered.revised revises
  · rw [created]
    exact numbered.created tag template location inPool

theorem Numbered.after
    {account : Account}
    (numbered : account.Numbered)
    (history : List Event) :
    (account.after history).Numbered := by
  induction history generalizing account with
  | nil => exact numbered
  | cons event rest inductionHypothesis => exact inductionHypothesis (numbered.next event)

theorem Reachable.numbered
    {account : Account}
    (reachable : account.Reachable) :
    account.Numbered := by
  obtain ⟨catalog, identity, secret, keys, history, rfl⟩ := reachable
  exact (Numbered.opened catalog identity secret keys).after history

/-- A node stays through every event, and what continues it is found under the same name. -/
theorem Numbered.kept_next
    {account : Account}
    (numbered : account.Numbered)
    (event : Event)
    {id : NodeId}
    {node : AccountNode}
    (found : account.nodes.find? id = some node) :
    ∃ later, (account.next event).nodes.find? id = some later ∧ Continues node later := by
  rcases next_cases account event with revises | ⟨_, tag, template, location, _, _, _, created⟩
  · exact revises.kept id node found
  · rw [created]
    exact ⟨node, numbered.find?_created_of_found tag template location found,
      Continues.refl node⟩

/-- After any history every node is still there, and continues what it was. -/
theorem Numbered.kept_after
    {account : Account}
    (numbered : account.Numbered)
    (history : List Event)
    {id : NodeId}
    {node : AccountNode}
    (found : account.nodes.find? id = some node) :
    ∃ later, (account.after history).nodes.find? id = some later ∧ Continues node later := by
  induction history generalizing account node with
  | nil => exact ⟨node, found, Continues.refl node⟩
  | cons event rest inductionHypothesis =>
    obtain ⟨middle, foundMiddle, continues⟩ := numbered.kept_next event found
    obtain ⟨later, foundLater, continuesLater⟩ :=
      inductionHypothesis (numbered.next event) foundMiddle
    exact ⟨later, foundLater, continues.trans continuesLater⟩

end Account

end Memory

end Fleet
