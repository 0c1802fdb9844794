import Fleet.Memory.Provider
import Fleet.Proofs.Activity.Instant
import Fleet.Proofs.Memory.Booting
import Fleet.Proofs.Memory.Consistency

/-!
# Nodes that are polled and destroyed in turn

A listing polls the nodes that it lists, and a destruction ends the ones that no arrangement
protects. Neither touches anything else of the account, so what happens to distinct nodes one after
the other happens to each of them alone.
-/

namespace Fleet.Memory

/-- The node when it has been destroyed. -/
def AccountNode.ended (node : AccountNode) : AccountNode :=
  { node with record := { node.record with state := .terminated } }

theorem continues_ended (node : AccountNode) : Continues node node.ended :=
  ⟨rfl, fun _ => rfl⟩

theorem AccountNode.ended_of_terminated
    {node : AccountNode}
    (terminated : node.record.state = .terminated) :
    node.ended = node := by
  rw [ended, ← terminated]

/-- A poll neither ends a node nor brings one back. -/
theorem afterPoll_terminated_iff (node : AccountNode) :
    (afterPoll node).record.state = .terminated ↔ node.record.state = .terminated := by
  constructor
  · intro terminated
    unfold afterPoll at terminated
    split at terminated
    · exact terminated
    · split at terminated
      · exact terminated
      · change (if node.failsToBoot then NodeState.error else .running) = _ at terminated
        split at terminated <;> cases terminated
  · exact (continues_afterPoll node).final

namespace Account

/-! ## Changes to some nodes -/

/-- The nodes with certain names are changed, each in its own way, and nothing else is. -/
structure Alters (ids : List NodeId) (change : NodeId → AccountNode → AccountNode)
    (before after : Account) : Prop where
  others : SameButNodes before after
  nodes : ∀ id, after.nodes.find? id =
    if id ∈ ids then (before.nodes.find? id).map (change id) else before.nodes.find? id

namespace Alters

variable {ids : List NodeId} {change later : NodeId → AccountNode → AccountNode}
  {first second third : Account}

theorem nil (account : Account) : Alters [] change account account := by
  constructor
  · exact SameButNodes.refl account
  · intro id
    rw [if_neg List.not_mem_nil]

/-- A change to one node and a change to others make one change. -/
theorem cons
    {id : NodeId}
    {rest : List NodeId}
    (fresh : id ∉ rest)
    (here : Alters [id] change first second)
    (there : Alters rest change second third) :
    Alters (id :: rest) change first third := by
  constructor
  · exact here.others.trans there.others
  · intro other
    rw [there.nodes, here.nodes]
    by_cases same : other = id
    · subst same
      rw [if_neg fresh, if_pos List.mem_cons_self, if_pos List.mem_cons_self]
    · simp only [List.mem_cons, same, List.not_mem_nil, false_or, if_false]

theorem find?_of_mem
    (alters : Alters ids change first second)
    {id : NodeId}
    (member : id ∈ ids) :
    second.nodes.find? id = (first.nodes.find? id).map (change id) := by
  rw [alters.nodes, if_pos member]

theorem find?_of_not_mem
    (alters : Alters ids change first second)
    {id : NodeId}
    (outside : id ∉ ids) :
    second.nodes.find? id = first.nodes.find? id := by
  rw [alters.nodes, if_neg outside]

/-- Changes by which every node continues are a revision. -/
theorem revises
    (alters : Alters ids change first second)
    (continues : ∀ id node, Continues node (change id node)) :
    Revises first second where
  tags := by rw [alters.others]
  numbers := by
    rw [alters.others]
    exact Nat.min_le_left _ _
  kept id node found := by
    by_cases member : id ∈ ids
    · refine ⟨change id node, ?_, continues id node⟩
      rw [alters.find?_of_mem member, found]
      rfl
    · refine ⟨node, ?_, Continues.refl node⟩
      rw [alters.find?_of_not_mem member, found]
  absent id missing := by
    rw [alters.nodes, missing]
    split <;> rfl

theorem polling
    (account : Account)
    (id : NodeId) :
    Alters [id] (fun _ => afterPoll) account (account.polling id) := by
  constructor
  · exact SameButNodes.polling account id
  · intro other
    simp only [find?_polling, List.mem_singleton, eq_comm]

theorem foldl_polling
    {ids : List NodeId}
    (distinct : ids.Nodup)
    (account : Account) :
    Alters ids (fun _ => afterPoll) account (ids.foldl Account.polling account) := by
  induction ids generalizing account with
  | nil => exact nil account
  | cons id rest inductionHypothesis =>
    rcases List.nodup_cons.1 distinct with ⟨fresh, restDistinct⟩
    exact (polling account id).cons fresh (inductionHypothesis restDistinct _)

end Alters

/-! ## Destructions -/

/-- Whether an arrangement keeps a node from being destroyed. -/
def protects (account : Account) (id : NodeId) : Bool :=
  account.destroyFaults.contains id || account.lingering.contains id

/-- The answer to the destruction of a node that exists. -/
def verdict (account : Account) (id : NodeId) : Except AccountError Unit :=
  match account.destroyFaults.find? id with
  | some kind => .error (.injected "destroy" kind)
  | none => .ok ()

/-- A node after its destruction has been asked for. -/
def razed (account : Account) (id : NodeId) (node : AccountNode) : AccountNode :=
  if account.protects id then node else node.ended

theorem protects_eq_false_iff
    (account : Account)
    (id : NodeId) :
    account.protects id = false ↔
      account.destroyFaults.find? id = none ∧ account.lingering.contains id = false := by
  rw [protects, Bool.or_eq_false_iff, Table.contains, Option.isSome_eq_false_iff,
    Option.isNone_iff_eq_none]

theorem verdict_of_not_protects
    {account : Account}
    {id : NodeId}
    (bare : account.protects id = false) :
    account.verdict id = .ok () := by
  rw [verdict, ((protects_eq_false_iff account id).1 bare).1]

section SameButNodes

variable {before after : Account} (same : SameButNodes before after)

include same

theorem SameButNodes.protects : after.protects = before.protects := by
  rw [same]
  rfl

theorem SameButNodes.verdict : after.verdict = before.verdict := by
  rw [same]
  rfl

theorem SameButNodes.razed : after.razed = before.razed := by
  rw [same]
  rfl

theorem SameButNodes.listed (tag : String) :
    after.listed (some tag) = before.listed (some tag) := by
  rw [same]
  rfl

end SameButNodes

/-- What the destruction of a node that exists comes to. -/
theorem destroy_of_found
    {account : Account}
    {id : NodeId}
    {node : AccountNode}
    (found : account.nodes.find? id = some node) :
    (destroy id account).1 = account.verdict id ∧
      Alters [id] account.razed account (destroy id account).2 := by
  have untouched : account.razed id node = node →
      Alters [id] account.razed account account := by
    intro same
    constructor
    · exact SameButNodes.refl account
    · intro other
      split
      · next member =>
        rw [List.mem_singleton.1 member, found, Option.map_some, same]
      · rfl
  rcases destroy_cases id account with
    ⟨kind, fault, refused⟩ | ⟨free, lingers, ignored⟩ | ⟨_, _, missing, _⟩ |
    ⟨free, leaves, held, foundHeld, final, done⟩ |
    ⟨free, leaves, held, foundHeld, _, destroyed⟩
  · rw [refused]
    constructor
    · simp only [verdict, fault]
    · apply untouched
      simp [razed, protects, Table.contains, fault]
  · rw [ignored]
    constructor
    · simp only [verdict, free]
    · apply untouched
      simp [razed, protects, lingers]
  · rw [found] at missing
    cases missing
  · rw [done]
    rw [found] at foundHeld
    cases foundHeld
    constructor
    · simp only [verdict, free]
    · apply untouched
      simp [razed, AccountNode.ended_of_terminated final]
  · rw [destroyed]
    rw [found] at foundHeld
    cases foundHeld
    constructor
    · simp only [verdict, free]
    · constructor
      · rfl
      · intro other
        have bare := (protects_eq_false_iff account id).2 ⟨free, leaves⟩
        rw [Table.find?_insert]
        by_cases same : id = other
        · subst same
          simp [found, razed, bare, AccountNode.ended]
        · rw [if_neg same, if_neg fun member => same (List.mem_singleton.1 member).symm]

/-- The destructions of distinct nodes that exist, one after the other, come to what each of them
comes to alone. -/
theorem inTurn_destroy
    {σ : Type}
    {place : Part σ Account}
    (lawful : place.Lawful)
    {client : Client}
    {ids : List NodeId}
    (distinct : ids.Nodup)
    (now : Nat)
    {whole : σ}
    (admitted : (place.view whole).admits client = true)
    (held : ∀ id ∈ ids, ∃ node, (place.view whole).nodes.find? id = some node) :
    let action := fun (id : NodeId) (_ : Nat) (whole : σ) =>
      ((id, (authorized client (destroy id) (place.view whole)).1.mapError AccountError.toFailure),
        place.update (authorized client (destroy id) (place.view whole)).2 whole)
    (Activity.inTurn (ids.map action) now whole).1 =
        ids.map (fun id =>
          (id, ((place.view whole).verdict id).mapError AccountError.toFailure)) ∧
      Alters ids (place.view whole).razed (place.view whole)
        (place.view (Activity.inTurn (ids.map action) now whole).2) := by
  intro action
  induction ids generalizing whole with
  | nil => exact ⟨rfl, Alters.nil _⟩
  | cons id rest inductionHypothesis =>
    rcases List.nodup_cons.1 distinct with ⟨fresh, restDistinct⟩
    rcases held id List.mem_cons_self with ⟨node, found⟩
    rcases destroy_of_found found with ⟨answer, here⟩
    have asked : action id now whole =
        ((id, ((place.view whole).verdict id).mapError AccountError.toFailure),
          place.update (destroy id (place.view whole)).2 whole) := by
      simp only [action, authorized_of_admits admitted, answer]
    have middle : place.view (action id now whole).2 = (destroy id (place.view whole)).2 := by
      rw [asked, lawful.view_update]
    rw [← middle] at here
    have still : ∀ other ∈ rest, ∃ node,
        (place.view (action id now whole).2).nodes.find? other = some node := by
      intro other member
      have different : other ∉ [id] := by
        intro same
        exact fresh (List.mem_singleton.1 same ▸ member)
      rw [here.find?_of_not_mem different]
      exact held other (List.mem_cons_of_mem id member)
    rcases inductionHypothesis restDistinct ((here.others.admits client).trans admitted) still with
      ⟨answers, there⟩
    rw [here.others.verdict] at answers
    rw [here.others.razed] at there
    constructor
    · show (action id now whole).1 ::
        (Activity.inTurn (rest.map action) now (action id now whole).2).1 = _
      rw [answers, asked]
      rfl
    · exact here.cons fresh there

/-! ## A destruction between two listings -/

/-- Whether there is a node with a name that has not been destroyed. -/
def lives (account : Account) (id : NodeId) : Bool :=
  (account.nodes.find? id).any fun node => !node.record.state.isTerminated

/-- A node that is polled, destroyed unless it is protected, and polled again. -/
def demolished (account : Account) (id : NodeId) (node : AccountNode) : AccountNode :=
  afterPoll (account.razed id (afterPoll node))

theorem lives_of_found
    {account : Account}
    {id : NodeId}
    {node : AccountNode}
    (found : account.nodes.find? id = some node) :
    account.lives id = true ↔ node.record.state ≠ .terminated := by
  simp [lives, found, NodeState.isTerminated]

theorem continues_razed
    (account : Account)
    (id : NodeId)
    (node : AccountNode) :
    Continues node (account.razed id node) := by
  unfold razed
  split
  · exact Continues.refl node
  · exact continues_ended node

theorem continues_demolished
    (account : Account)
    (id : NodeId)
    (node : AccountNode) :
    Continues node (account.demolished id node) :=
  ((continues_afterPoll node).trans (continues_razed account id _)).trans (continues_afterPoll _)

/-- A node has ended afterwards when it had ended before or nothing protects it. -/
theorem demolished_terminated_iff
    (account : Account)
    (id : NodeId)
    (node : AccountNode) :
    (account.demolished id node).record.state = .terminated ↔
      node.record.state = .terminated ∨ account.protects id = false := by
  rw [demolished, afterPoll_terminated_iff, razed]
  split
  · next kept => simp [afterPoll_terminated_iff, kept]
  · next bare => simp [AccountNode.ended, bare]

section Stages

variable {ids live : List NodeId} {before polled razed : Account}
  (first : Alters ids (fun _ => afterPoll) before polled)
  (chosen : ∀ id, id ∈ live ↔ id ∈ ids ∧ before.lives id = true)
  (second : Alters live polled.razed polled razed)

include first chosen second

/-- Of the nodes whose destruction was asked for exactly the protected ones live on. -/
theorem lives_of_razed
    {id : NodeId}
    (member : id ∈ live) :
    razed.lives id = before.protects id := by
  rcases (chosen id).1 member with ⟨listed, alive⟩
  cases found : before.nodes.find? id with
  | none => simp [lives, found] at alive
  | some node =>
    have asked : razed.nodes.find? id = some (before.razed id (afterPoll node)) := by
      rw [second.find?_of_mem member, first.find?_of_mem listed, found, first.others.razed]
      rfl
    rw [Bool.eq_iff_iff, lives_of_found asked, Account.razed]
    split
    · next kept =>
      have still := (lives_of_found found).1 alive
      simp [kept, afterPoll_terminated_iff, still]
    · next bare =>
      simp [bare, AccountNode.ended]

/-- The polls of the first listing, the destruction of the live nodes and the polls of the second
listing make one change. -/
theorem alters_demolished (distinct : ids.Nodup) :
    Alters ids before.demolished before (ids.foldl Account.polling razed) := by
  have third := Alters.foldl_polling distinct razed
  constructor
  · exact (first.others.trans second.others).trans third.others
  · intro id
    by_cases member : id ∈ ids
    · rw [if_pos member, third.find?_of_mem member, second.nodes, first.find?_of_mem member,
        first.others.razed]
      cases found : before.nodes.find? id with
      | none => split <;> rfl
      | some node =>
        by_cases inside : id ∈ live
        · rw [if_pos inside]
          rfl
        · have final : (afterPoll node).record.state = .terminated := by
            rw [afterPoll_terminated_iff]
            by_contra alive
            exact inside ((chosen id).2 ⟨member, (lives_of_found found).2 alive⟩)
          rw [if_neg inside]
          apply congrArg some
          rw [Account.demolished, Account.razed, AccountNode.ended_of_terminated final, ite_self]
    · have spared : id ∉ live := fun inside => member ((chosen id).1 inside).1
      rw [if_neg member, third.find?_of_not_mem member, second.find?_of_not_mem spared,
        first.find?_of_not_mem member]

end Stages

/-! ## The nodes of a tag -/

theorem ascending_listed
    (account : Account)
    (tag : Option String) :
    (account.listed tag).Pairwise fun first second => first < second := by
  cases tag with
  | none => exact account.nodes.keys_ascending
  | some tag =>
    rw [listed]
    cases account.tags.find? tag with
    | none => exact List.Pairwise.nil
    | some names => exact names.keys_ascending

/-- A tag lists the nodes that carry it. -/
theorem Numbered.mem_listed_tag_iff
    {account : Account}
    (numbered : account.Numbered)
    (tag : String)
    (id : NodeId) :
    id ∈ account.listed (some tag) ↔
      ∃ node, account.nodes.find? id = some node ∧ node.record.tag = tag := by
  rw [← numbered.indexed, listed, Indexes]
  cases names : account.tags.find? tag <;> simp

/-- After a destruction exactly the protected ones among the live nodes of its tag live. -/
theorem lives_of_demolished
    {account after : Account}
    {tag : String}
    (numbered : account.Numbered)
    (changed : Alters (account.listed (some tag)) account.demolished account after) :
    (account.listed (some tag)).filter after.lives =
      ((account.listed (some tag)).filter account.lives).filter account.protects := by
  rw [List.filter_filter]
  apply List.filter_congr
  intro id member
  rcases (numbered.mem_listed_tag_iff tag id).1 member with ⟨node, found, _⟩
  have left : after.nodes.find? id = some (account.demolished id node) := by
    rw [changed.find?_of_mem member, found]
    rfl
  rw [Bool.eq_iff_iff, Bool.and_eq_true, lives_of_found left, lives_of_found found,
    ne_eq, demolished_terminated_iff]
  cases account.protects id <;> simp

/-- The nodes of a tag end unless they are protected, and the others stay as they are. -/
theorem demolished_by_tag
    {account after : Account}
    {tag : String}
    (numbered : account.Numbered)
    (changed : Alters (account.listed (some tag)) account.demolished account after)
    {id : NodeId}
    {node : AccountNode}
    (found : account.nodes.find? id = some node) :
    ∃ left, after.nodes.find? id = some left ∧
      (node.record.tag ≠ tag → left = node) ∧
      (node.record.tag = tag → account.destroyFaults.find? id = none →
        account.lingering.contains id = false → left.record.state = .terminated) := by
  by_cases member : id ∈ account.listed (some tag)
  · rcases (numbered.mem_listed_tag_iff tag id).1 member with ⟨same, foundSame, tagged⟩
    rw [found] at foundSame
    cases foundSame
    refine ⟨account.demolished id node, ?_, ?_, ?_⟩
    · rw [changed.find?_of_mem member, found]
      rfl
    · intro other
      exact absurd tagged other
    · intro _ free leaves
      rw [demolished_terminated_iff, protects_eq_false_iff]
      exact Or.inr ⟨free, leaves⟩
  · refine ⟨node, ?_, ?_, ?_⟩
    · rw [changed.find?_of_not_mem member, found]
    · intro _
      rfl
    · intro tagged
      exact absurd ((numbered.mem_listed_tag_iff tag id).2 ⟨node, found, tagged⟩) member

/-- What nothing protects has ended the first time, so the second time ends no node. -/
theorem demolished_again
    {ids : List NodeId}
    {before middle after : Account}
    (first : Alters ids before.demolished before middle)
    (second : Alters ids middle.demolished middle after)
    {id : NodeId}
    {node : AccountNode}
    (found : middle.nodes.find? id = some node) :
    ∃ left, after.nodes.find? id = some left ∧
      (left.record.state = .terminated ↔ node.record.state = .terminated) := by
  by_cases member : id ∈ ids
  · refine ⟨middle.demolished id node, ?_, ?_⟩
    · rw [second.find?_of_mem member, found]
      rfl
    · rw [first.find?_of_mem member] at found
      rcases Option.map_eq_some_iff.1 found with ⟨earlier, _, rfl⟩
      rw [demolished_terminated_iff, demolished_terminated_iff, first.others.protects]
      tauto
  · refine ⟨node, ?_, Iff.rfl⟩
    rw [second.find?_of_not_mem member, found]

end Account

end Fleet.Memory
