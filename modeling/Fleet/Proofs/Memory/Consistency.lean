import Fleet.Proofs.Memory.Numbering

/-!
# Reachable accounts are consistent

What clients and owners can rely on after any history: names, tags and addresses identify nodes,
logins are decided by the one node that owns the address, and a listing by tag is the listing of all
nodes with the other tags left out.
-/

namespace Fleet.Memory.Account

variable {account : Account}

/-! ## Owners of addresses -/

theorem acceptsLogin_iff
    (account : Account)
    (address : Address)
    (login : Credentials) :
    account.acceptsLogin address login = true ↔
      ∃ node ∈ account.nodes.values, node.record.owns address = true ∧
        node.record.state = .running ∧ node.record.credentials = some login := by
  simp [acceptsLogin, Node.owns, and_assoc]

/-- No two nodes have an address in common. -/
theorem Numbered.owner_unique
    (numbered : account.Numbered)
    {first second : AccountNode}
    (firstHeld : first ∈ account.nodes.values)
    (secondHeld : second ∈ account.nodes.values)
    {address : Address}
    (ownedFirst : first.record.owns address = true)
    (ownedSecond : second.record.owns address = true) :
    first = second := by
  obtain ⟨id, found⟩ := (Table.mem_values_iff _ _).1 firstHeld
  obtain ⟨other, foundOther⟩ := (Table.mem_values_iff _ _).1 secondHeld
  obtain ⟨index, _, _, number⟩ := numbered.numbered id first found
  obtain ⟨otherIndex, _, _, otherNumber⟩ := numbered.numbered other second foundOther
  have sameIndex : index = otherIndex := number.eq_of_owns otherNumber ownedFirst ownedSecond
  have sameName : id = other := by
    rw [← numbered.named id first found, ← numbered.named other second foundOther, number.id,
      otherNumber.id, sameIndex]
  subst sameName
  rw [found] at foundOther
  exact Option.some.inj foundOther

theorem Numbered.map_id_values (numbered : account.Numbered) :
    account.nodes.values.map (fun node => node.record.id) = account.nodes.keys := by
  rw [Table.values, Table.keys, List.map_map]
  apply List.map_congr_left
  intro entry member
  exact numbered.named _ _ ((Table.find?_eq_some_iff _ _ _).2 member)

/-- At the address of a node a login is accepted exactly when the node runs and it is the node's. -/
theorem Numbered.acceptsLogin_of_owns
    (numbered : account.Numbered)
    {node : AccountNode}
    (held : node ∈ account.nodes.values)
    {address : Address}
    (owned : node.record.owns address = true)
    (login : Credentials) :
    account.acceptsLogin address login = true ↔
      node.record.state = .running ∧ node.record.credentials = some login := by
  rw [acceptsLogin_iff]
  constructor
  · rintro ⟨other, otherHeld, otherOwns, accepts⟩
    rw [numbered.owner_unique held otherHeld owned otherOwns]
    exact accepts
  · intro accepts
    exact ⟨node, held, owned, accepts⟩

/-! ## Listings -/

/-- Whether the node with a name carries a tag. -/
def carries (account : Account) (tag : String) (id : NodeId) : Bool :=
  (account.nodes.find? id).any fun node => node.record.tag == tag

/-- The index lists the names of a tag as the list of all names does. -/
theorem Numbered.listed_tag
    (numbered : account.Numbered)
    (tag : String) :
    account.listed (some tag) = (account.listed none).filter (account.carries tag) := by
  have names : account.listed (some tag) = ((account.tags.find? tag).getD Table.empty).keys := by
    rw [listed]
    cases account.tags.find? tag <;> rfl
  have indexed : ∀ id, id ∈ ((account.tags.find? tag).getD Table.empty).keys ↔
      account.Indexes tag id := by
    intro id
    unfold Indexes
    cases account.tags.find? tag <;> simp [Table.keys, Table.empty]
  rw [names]
  apply Table.keys_eq_of_mem_iff
  · exact account.nodes.keys_ascending.filter _
  · intro id
    rw [indexed, numbered.indexed, List.mem_filter, listed, Table.mem_keys_iff]
    constructor
    · rintro ⟨node, found, tagged⟩
      exact ⟨⟨node, found⟩, by simp [carries, found, tagged]⟩
    · rintro ⟨⟨node, found⟩, carried⟩
      exact ⟨node, found, by simpa [carries, found] using carried⟩

theorem tag_shown_afterPoll
    (account : Account)
    (node : AccountNode) :
    (account.shown (afterPoll node)).tag = node.record.tag := by
  rw [← (continues_afterPoll node).tag_eq, shown]
  split <;> rfl

/-- Listing a tag shows what listing all nodes shows of it. -/
theorem Numbered.filterMap_listed_tag
    (numbered : account.Numbered)
    (tag : String) :
    (account.listed (some tag)).filterMap account.pollView =
      ((account.listed none).filterMap account.pollView).filter
        fun record => record.tag == tag := by
  rw [numbered.listed_tag, List.filterMap_filter, List.filter_filterMap]
  apply List.filterMap_congr
  intro id _
  rw [carries, pollView]
  cases account.nodes.find? id with
  | none => rfl
  | some node => simp [Option.filter, tag_shown_afterPoll]

/-! ## Consistency -/

/-- What can be relied on in a state of an account. -/
structure Consistent (account : Account) : Prop where
  /-- A node is stored under its own name. -/
  named : ∀ id node, account.nodes.find? id = some node → node.record.id = id
  /-- A name is listed under a tag exactly when its node exists and carries the tag. -/
  indexed : ∀ tag id, account.Indexes tag id ↔
    ∃ node, account.nodes.find? id = some node ∧ node.record.tag = tag
  distinctNames : (account.nodes.values.map fun node => node.record.id).Nodup
  /-- Two nodes share neither public nor private addresses. -/
  distinctAddresses : ∀ first ∈ account.nodes.values,
    ∀ second ∈ account.nodes.values, ∀ address,
    first.record.owns address = true → second.record.owns address = true → first = second
  /-- The node that owns an address decides about logins there. -/
  logins : ∀ node ∈ account.nodes.values, ∀ address login, node.record.owns address = true →
    (account.acceptsLogin address login = true ↔
      node.record.state = .running ∧ node.record.credentials = some login)
  strangers : ∀ address login,
    (∀ node ∈ account.nodes.values, node.record.owns address = false) →
      account.acceptsLogin address login = false
  /-- To a client that is admitted, a tag's listing shows what the listing of all nodes shows of
  it. -/
  listings : ∀ client tag, account.admits client = true →
    ∃ records, account.reply client (.list none) = .ok (.nodes records) ∧
      account.reply client (.list (some tag)) =
        .ok (.nodes (records.filter fun record => record.tag == tag))
  lawful : ∀ client request source, account.reply client request ≠ .error (.lifecycle source)

/-- An account in which nodes are numbered is consistent. -/
theorem Numbered.consistent (numbered : account.Numbered) : account.Consistent where
  named := numbered.named
  indexed := numbered.indexed
  distinctNames := by
    rw [numbered.map_id_values]
    exact account.nodes.nodup_keys
  distinctAddresses _ firstHeld _ secondHeld _ ownedFirst ownedSecond :=
    numbered.owner_unique firstHeld secondHeld ownedFirst ownedSecond
  logins _ held _ login owned := numbered.acceptsLogin_of_owns held owned login
  strangers address login unowned := by
    rw [Bool.eq_false_iff]
    intro accepted
    obtain ⟨node, held, owned, _⟩ := (acceptsLogin_iff account address login).1 accepted
    rw [unowned node held] at owned
    cases owned
  listings client tag admitted := by
    refine ⟨(account.listed none).filterMap account.pollView, ?_, ?_⟩
    · exact reply_list admitted none
    · rw [reply_list admitted, numbered.filterMap_listed_tag]
  lawful := account.reply_ne_lifecycle

/-- Whatever clients ask and owners arrange, the account is consistent, and from any of its states
on every node stays as it was created: only its state changes, and the final state never. -/
theorem consistent_and_kept_by_histories
    (catalog : Catalog)
    (identity secret : String)
    (keys : TokenSupply)
    (history further : List Event) :
    ((opened catalog identity secret keys).after history).Consistent ∧
    ∀ id node, ((opened catalog identity secret keys).after history).nodes.find?
      id = some node →
      ∃ kept, ((opened catalog identity secret keys).after (history ++ further)).nodes.find? id =
          some kept ∧
        Continues node kept := by
  have numbered : ((opened catalog identity secret keys).after history).Numbered :=
    (Numbered.opened catalog identity secret keys).after history
  refine ⟨numbered.consistent, fun id node found => ?_⟩
  rw [after_append]
  exact numbered.kept_after further found

end Fleet.Memory.Account
