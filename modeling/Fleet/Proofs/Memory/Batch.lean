import Fleet.Memory.Provider
import Fleet.Proofs.Activity.Instant
import Fleet.Proofs.Memory.Numbering
import Mathlib.Data.List.Nodup

/-!
# A batch of creations

The creations of a batch follow one another without a pause. As long as creations are arranged to
fail, they fail and leave everything else alone; the others give nodes with consecutive numbers, and
of these the first ones take the arranged boot faults.
-/

namespace Fleet.Memory

variable {σ α : Type}

/-- The answers to an operation that is done a number of times, and the account after it. -/
def repeated (operation : Operation α) :
    Nat → Account → List (Except AccountError α) × Account
  | 0, account => ([], account)
  | count + 1, account =>
    let (answer, middle) := operation account
    let (answers, after) := repeated operation count middle
    (answer :: answers, after)

theorem repeated_add
    (operation : Operation α)
    (first second : Nat)
    (account : Account) :
    repeated operation (first + second) account =
      ((repeated operation first account).1 ++
        (repeated operation second (repeated operation first account).2).1,
        (repeated operation second (repeated operation first account).2).2) := by
  induction first generalizing account with
  | zero => simp [repeated]
  | succ first inductionHypothesis =>
    rw [Nat.add_right_comm]
    simp [repeated, inductionHypothesis]

/-- For a client whom the operation does not shut out, every repetition is admitted. -/
theorem repeated_authorized
    {client : Client}
    {operation : Operation α}
    (keeps : ∀ account, (operation account).2.admits client = account.admits client)
    (count : Nat)
    {account : Account}
    (admitted : account.admits client = true) :
    repeated (Account.authorized client operation) count account =
      repeated operation count account := by
  induction count generalizing account with
  | zero => rfl
  | succ count inductionHypothesis =>
    have still := (keeps account).trans admitted
    simp only [repeated, Account.authorized_of_admits admitted, inductionHypothesis still]

namespace Account

theorem admits_create
    (client : Client)
    (tag : String)
    (template : Template)
    (account : Account) :
    (create tag template account).2.admits client = account.admits client := by
  unfold create
  split
  · rfl
  · split
    · rfl
    · dsimp only
      split <;> rfl

/-- The names that consecutive numbers make. -/
def names (first count : Nat) : List NodeId :=
  (List.range' first count).map numberedName

theorem nodup_names (first count : Nat) : (names first count).Nodup :=
  List.Nodup.map (fun _ _ => numberedName_injective) List.nodup_range'

/-- A key to log in with is never empty unless an empty one is asked for. -/
theorem keyFor_ne_empty
    {template : Template}
    (keyed : template.options.privateKey ≠ some "")
    (account : Account) :
    (account.keyFor template).1 ≠ "" := by
  rw [keyFor]
  split
  · rename_i key asked
    rintro rfl
    exact keyed asked
  · intro empty
    have first := congrArg String.toList empty
    simp at first

/-- How many of a number of creations fail. -/
def refusals (account : Account) (count : Nat) : Nat :=
  min account.failingCreates count

/-- How many of a number of creations succeed. -/
def births (account : Account) (count : Nat) : Nat :=
  count - account.refusals count

/-- The account after the creations of a number that fail. -/
def relieved (account : Account) (count : Nat) : Account :=
  { account with failingCreates := account.failingCreates - account.refusals count }

@[simp]
theorem failingBoots_relieved
    (account : Account)
    (count : Nat) :
    (account.relieved count).failingBoots = account.failingBoots := rfl

/-- A node as its creation leaves it. -/
structure Newborn (account : Account) (tag : String) (template : Template)
    (location : LocationId) (node : AccountNode) : Prop where
  record : ∃ index key, key ≠ "" ∧ node.record = newRecord index tag template location key
  pollsLeft : node.pollsLeft = account.bootPolls

theorem Newborn.pending
    {account : Account}
    {tag : String}
    {template : Template}
    {location : LocationId}
    {node : AccountNode}
    (newborn : account.Newborn tag template location node) :
    node.record.state = .pending := by
  obtain ⟨index, key, _, record⟩ := newborn.record
  rw [record]
  rfl

/-- What a batch of successful creations makes of an account: it has the new nodes, of which the
first ones will fail to boot, and otherwise only its counts have changed. -/
structure Bears (account : Account) (tag : String) (template : Template) (location : LocationId)
    (born : List AccountNode) (after : Account) : Prop where
  newborn : ∀ node ∈ born, account.Newborn tag template location node
  names : born.map (fun node => node.record.id) = names (account.lastIndex + 1) born.length
  found : ∀ node ∈ born, after.nodes.find? node.record.id = some node
  spared : ∀ id, id ∉ Account.names (account.lastIndex + 1) born.length →
    after.nodes.find? id = account.nodes.find? id
  failing : ∀ node ∈ born.take account.failingBoots, node.failsToBoot = true
  booting : ∀ node ∈ born.drop account.failingBoots, node.failsToBoot = false
  rest : after =
    { account with
      nodes := after.nodes
      tags := after.tags
      lastIndex := after.lastIndex
      keys := after.keys
      failingBoots := account.failingBoots - born.length }

theorem Bears.admits
    {account after : Account}
    {tag : String}
    {template : Template}
    {location : LocationId}
    {born : List AccountNode}
    (bears : account.Bears tag template location born after)
    (client : Client) :
    after.admits client = account.admits client := by
  rw [bears.rest]
  rfl

theorem Bears.nodup
    {account after : Account}
    {tag : String}
    {template : Template}
    {location : LocationId}
    {born : List AccountNode}
    (bears : account.Bears tag template location born after) :
    (born.map fun node => node.record.id).Nodup :=
  bears.names ▸ nodup_names _ _

theorem create_of_failing
    {tag : String}
    {template : Template}
    {account : Account}
    (arranged : 0 < account.failingCreates) :
    create tag template account =
      (.error (.injected "create" .transient),
        { account with failingCreates := account.failingCreates - 1 }) :=
  if_pos arranged

/-- With a place, with an address, and without faults a creation is answered with the new record. -/
theorem create_of_free
    {tag : String}
    {template : Template}
    {account : Account}
    {location : LocationId}
    (free : account.failingCreates = 0)
    (placed : account.placement template.location = .ok location)
    (room : account.lastIndex + 1 ≤ lastHost) :
    create tag template account =
      (.ok (account.newNode tag template location).record,
        account.created tag template location) := by
  have number : account.nextIndex = account.lastIndex + 1 := by
    simp only [nextIndex, lastHost, Text.largest32] at room ⊢
    omega
  have inPool : ¬ lastHost < account.nextIndex := by
    rw [number]
    exact Nat.not_lt_of_le room
  have unarranged : ¬ 0 < account.failingCreates := by omega
  unfold create
  simp only [if_neg unarranged, placed, if_neg inPool]
  simp only [number]
  rfl

/-- Arranged faults are used up one by one. -/
theorem repeated_create_of_failing
    (tag : String)
    (template : Template)
    {count : Nat}
    {account : Account}
    (arranged : count ≤ account.failingCreates) :
    repeated (create tag template) count account =
      (List.replicate count (.error (.injected "create" .transient)),
        { account with failingCreates := account.failingCreates - count }) := by
  induction count generalizing account with
  | zero => rfl
  | succ count inductionHypothesis =>
    have fewer : count ≤
        { account with failingCreates := account.failingCreates - 1 }.failingCreates :=
      Nat.le_sub_of_add_le arranged
    have others := inductionHypothesis fewer
    rw [repeated, create_of_failing (Nat.lt_of_lt_of_le (Nat.succ_pos count) arranged)]
    simp only [others, Nat.sub_sub, Nat.add_comm 1 count, List.replicate_succ]

section Births

variable {tag : String} {template : Template} {location : LocationId}

theorem newborn_newNode
    (keyed : template.options.privateKey ≠ some "")
    (account : Account) :
    account.Newborn tag template location (account.newNode tag template location) :=
  ⟨⟨_, _, keyFor_ne_empty keyed account, rfl⟩, rfl⟩

theorem Bears.nil (account : Account) : account.Bears tag template location [] account where
  newborn := by simp
  names := rfl
  found := by simp
  spared _ _ := rfl
  failing := by simp
  booting := by simp
  rest := rfl

theorem names_succ (first count : Nat) :
    names first (count + 1) = numberedName first :: names (first + 1) count := rfl

theorem failingBoots_created
    (account : Account)
    (tag : String)
    (template : Template)
    (location : LocationId) :
    (account.created tag template location).failingBoots = account.failingBoots - 1 := rfl

/-- A creation and the batch that follows it make one batch. The creations that follow give out
higher numbers, so they leave the new node alone. -/
theorem Bears.cons
    {account after : Account}
    {born : List AccountNode}
    (keyed : template.options.privateKey ≠ some "")
    (bears : (account.created tag template location).Bears tag template location born after) :
    account.Bears tag template location (account.newNode tag template location :: born) after where
  newborn := by
    refine List.forall_mem_cons.2 ⟨newborn_newNode keyed account, fun node member => ?_⟩
    exact ⟨(bears.newborn node member).record, (bears.newborn node member).pollsLeft⟩
  names := by
    rw [List.map_cons, bears.names, List.length_cons, names_succ]
    rfl
  found := by
    refine List.forall_mem_cons.2 ⟨?_, bears.found⟩
    have ahead : numberedName (account.lastIndex + 1) ∉
        Account.names (account.lastIndex + 1 + 1) born.length :=
      (List.nodup_cons.1 (nodup_names (account.lastIndex + 1) (born.length + 1))).1
    exact (bears.spared _ ahead).trans (by rw [find?_created, if_pos rfl])
  spared id other := by
    rw [List.length_cons, names_succ, List.mem_cons, not_or] at other
    rw [bears.spared id other.2, find?_created, if_neg (Ne.symm other.1)]
  failing := by
    have others := bears.failing
    rw [failingBoots_created] at others
    cases faults : account.failingBoots with
    | zero => simp
    | succ fewer =>
      rw [faults, Nat.add_sub_cancel] at others
      exact List.forall_mem_cons.2 ⟨by simp [newNode, faults], others⟩
  booting := by
    have others := bears.booting
    rw [failingBoots_created] at others
    cases faults : account.failingBoots with
    | zero =>
      rw [faults] at others
      exact List.forall_mem_cons.2 ⟨by simp [newNode, faults], others⟩
    | succ fewer =>
      rw [faults, Nat.add_sub_cancel] at others
      exact others
  rest := by
    have counts : account.failingBoots - (born.length + 1) =
        (account.created tag template location).failingBoots - born.length := by
      rw [failingBoots_created, Nat.sub_sub, Nat.add_comm]
    rw [List.length_cons, counts]
    exact bears.rest

/-- Without arranged faults, and with room for all of them, all creations of a batch succeed. -/
theorem exists_bears
    (tag : String)
    (keyed : template.options.privateKey ≠ some "")
    {count : Nat}
    (account : Account)
    (free : account.failingCreates = 0 ∨ count = 0)
    (placed : account.placement template.location = .ok location)
    (room : account.lastIndex + count ≤ lastHost) :
    ∃ born after, born.length = count ∧
      repeated (create tag template) count account =
        (born.map fun node => .ok node.record, after) ∧
      account.Bears tag template location born after := by
  induction count generalizing account with
  | zero => exact ⟨[], account, rfl, rfl, Bears.nil account⟩
  | succ count inductionHypothesis =>
    have unarranged : account.failingCreates = 0 := by omega
    have roomNext : account.lastIndex + 1 + count ≤ lastHost := by omega
    obtain ⟨born, after, size, answers, bears⟩ :=
      inductionHypothesis (account.created tag template location) (Or.inl unarranged) placed
        roomNext
    refine ⟨_, after, ?_, ?_, bears.cons keyed⟩
    · rw [List.length_cons, size]
    · rw [repeated, create_of_free unarranged placed (by omega)]
      simp only [answers, List.map_cons]

/-- Of a batch of creations the first ones take the arranged faults, and the others succeed. -/
theorem exists_batch
    (tag : String)
    (keyed : template.options.privateKey ≠ some "")
    {count : Nat}
    {account : Account}
    (placed : account.placement template.location = .ok location)
    (room : account.lastIndex + count ≤ lastHost) :
    ∃ born after, born.length = account.births count ∧
      repeated (create tag template) count account =
        (List.replicate (account.refusals count) (.error (.injected "create" .transient)) ++
          born.map fun node => .ok node.record, after) ∧
      (account.relieved count).Bears tag template location born after := by
  have failures := repeated_create_of_failing tag template
    (Nat.min_le_left account.failingCreates count)
  have split : count = account.refusals count + account.births count :=
    (Nat.add_sub_of_le (Nat.min_le_right _ _)).symm
  have free : (account.relieved count).failingCreates = 0 ∨ account.births count = 0 := by
    simp only [relieved, births, refusals]
    omega
  have roomLeft : (account.relieved count).lastIndex + account.births count ≤ lastHost :=
    Nat.le_trans (Nat.add_le_add_left (Nat.sub_le _ _) _) room
  obtain ⟨born, after, size, answers, bears⟩ := exists_bears tag keyed (account.relieved count)
    free placed roomLeft
  refine ⟨born, after, size, ?_, bears⟩
  conv => lhs; rw [split]
  rw [repeated_add]
  simp only [refusals] at failures ⊢
  rw [failures]
  exact congrArg (fun others => (_ ++ others.1, others.2)) answers

end Births

end Account

/-! ## The provider -/

section Provider

variable {place : Part σ Account} {client : Client}

/-- An operation of a client who is admitted acts on the account at once. -/
theorem run_operating
    (operation : Operation α)
    (now : Nat)
    {whole : σ}
    (admitted : (place.view whole).admits client = true) :
    (operating place client operation).run now whole =
      some ((operation (place.view whole)).1.mapError AccountError.toFailure, now,
        place.update (operation (place.view whole)).2 whole) := by
  rw [← Account.authorized_of_admits admitted operation]
  rfl

/-- Repeated calls do to the account what the repeated operation does. -/
theorem inTurn_operating
    (lawful : place.Lawful)
    (operation : Operation α)
    (count now : Nat)
    (whole : σ) :
    let action := fun (_ : Nat) (whole : σ) =>
      ((operation (place.view whole)).1.mapError AccountError.toFailure,
        place.update (operation (place.view whole)).2 whole)
    (Activity.inTurn (List.replicate count action) now whole).1 =
        (repeated operation count (place.view whole)).1.map
          (Except.mapError AccountError.toFailure) ∧
      place.view (Activity.inTurn (List.replicate count action) now whole).2 =
        (repeated operation count (place.view whole)).2 := by
  intro action
  induction count generalizing whole with
  | zero => exact ⟨rfl, rfl⟩
  | succ count inductionHypothesis =>
    have others := inductionHypothesis (action now whole).2
    simp only [action, lawful.view_update] at others
    simp only [List.replicate_succ, Activity.inTurn, repeated, List.map_cons, action, others,
      and_self]

/-- The creations of a batch are done at once, one after the other. -/
theorem run_createMany
    (lawful : place.Lawful)
    (tag : String)
    (template : Template)
    (count : Nat)
    (now : Nat)
    {whole : σ}
    (admitted : (place.view whole).admits client = true) :
    ∃ reached,
      ((provider place client).createMany tag count template).run now whole =
        some ((repeated (Account.create tag template) count (place.view whole)).1.map
          (Except.mapError AccountError.toFailure), now, reached) ∧
      place.view reached = (repeated (Account.create tag template) count (place.view whole)).2 := by
  have creates := inTurn_operating lawful (Account.authorized client (Account.create tag template))
    count now whole
  rw [repeated_authorized (Account.admits_create client tag template) count admitted] at creates
  refine ⟨_, ?_, creates.2⟩
  have actions : List.replicate count ((provider place client).create tag template) =
      (List.replicate count fun (_ : Nat) (whole : σ) =>
        ((Account.authorized client (Account.create tag template) (place.view whole)).1.mapError
            AccountError.toFailure,
          place.update (Account.authorized client (Account.create tag template)
            (place.view whole)).2 whole)).map Activity.perform := by
    rw [List.map_replicate]
    rfl
  rw [← creates.1]
  show (Activity.gathered (List.replicate count ((provider place client).create tag template))).run
    now whole = _
  rw [actions, Activity.run_gathered_perform]

end Provider

end Fleet.Memory
