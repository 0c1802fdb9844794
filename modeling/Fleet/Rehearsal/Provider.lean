import Fleet.Provider.Basic

/-!
# A rehearsed provider

A provider whose answers are prepared in queues: one for creations, listings, images, sizes and
locations each, and one for each node that is looked up, rebooted or destroyed. A call takes the
next answer of its queue when it starts; the last answer of a queue is given again and again. An
answer may be late, or never come.
-/

namespace Fleet.Rehearsal

/-- A prepared answer. -/
inductive Prepared (α : Type) where
  /-- An answer after a delay. -/
  | answer (delay : Nat) (result : Except ProviderFailure α)
  /-- No answer, ever. -/
  | silence

/-- Prepared answers, the next one first. -/
abbrev Queue (α : Type) := List (Prepared α)

/-- The queue after its next answer has been taken. -/
def Queue.rest {α : Type} : Queue α → Queue α
  | [] => []
  | [last] => [last]
  | _ :: second :: others => second :: others

/-- The queues of a rehearsed provider, and how often each was asked. -/
structure Scenario where
  loginAccount : Option String := none
  create : Queue Node := []
  list : Queue (List Node) := []
  images : Queue (List Image) := []
  sizes : Queue (List Size) := []
  locations : Queue (List Location) := []
  get : Table (Queue Node) := Table.empty
  reboot : Table (Queue Unit) := Table.empty
  destroy : Table (Queue Unit) := Table.empty
  /-- The calls started, by the name of the queue. -/
  calls : Table Nat := Table.empty

namespace Scenario

/-- The scenario with one more call of a queue. -/
def count (scenario : Scenario) (queue : String) : Scenario :=
  { scenario with
    calls := scenario.calls.insert queue ((scenario.calls.find? queue).getD 0 + 1) }

/-- The answer for a queue that holds none. -/
def unprepared {α : Type} (queue : String) : Prepared α :=
  .answer 0 (.error { kind := .fatal, message := s!"nothing scripted for {queue}" })

end Scenario

variable {σ α : Type}

/-- Give a prepared answer. -/
def Prepared.give : Prepared α → Activity σ (Except ProviderFailure α)
  | .answer delay result => do
    Activity.sleep delay
    pure result
  | .silence => .hang

/-- Start a call: take the next answer of a queue, or else the given one. -/
def ask
    (place : Part σ Scenario)
    (name : String)
    (queue : Part Scenario (Queue α))
    (fallback : Prepared α) :
    Activity σ (Except ProviderFailure α) := do
  let prepared ← Activity.focus place <| Activity.perform fun _ scenario =>
    let answers := queue.view scenario
    (answers.head?.getD fallback, (queue.update (Queue.rest answers) scenario).count name)
  prepared.give

/-- The queue of one node in a table of queues. -/
def queueOf (table : Part Scenario (Table (Queue α))) (id : NodeId) :
    Part Scenario (Queue α) where
  view scenario := ((table.view scenario).find? id).getD []
  update queue scenario :=
    if queue.isEmpty then scenario
    else table.update ((table.view scenario).insert id queue) scenario

/-- The provider of a scenario. -/
def provider (place : Part σ Scenario) (loginAccount : Option String) : Provider σ where
  name := "scripted"
  loginAccount := loginAccount
  create _ _ :=
    ask place "create" ⟨Scenario.create, fun queue scenario =>
      { scenario with create := queue }⟩
      (Scenario.unprepared "create")
  list _ :=
    ask place "list" ⟨Scenario.list, fun queue scenario => { scenario with list := queue }⟩
      (.answer 0 (.ok []))
  get id :=
    let name := s!"get {id}"
    ask place name
      (queueOf ⟨Scenario.get, fun queues scenario => { scenario with get := queues }⟩ id)
      (Scenario.unprepared name)
  reboot id :=
    ask place s!"reboot {id}"
      (queueOf ⟨Scenario.reboot, fun queues scenario => { scenario with reboot := queues }⟩ id)
      (.answer 0 (.ok ()))
  destroy id :=
    ask place s!"destroy {id}"
      (queueOf ⟨Scenario.destroy, fun queues scenario =>
        { scenario with destroy := queues }⟩ id)
      (.answer 0 (.ok ()))
  images :=
    ask place "images" ⟨Scenario.images, fun queue scenario =>
      { scenario with images := queue }⟩
      (.answer 0 (.ok []))
  sizes :=
    ask place "sizes" ⟨Scenario.sizes, fun queue scenario => { scenario with sizes := queue }⟩
      (.answer 0 (.ok []))
  locations :=
    ask place "locations"
      ⟨Scenario.locations, fun queue scenario => { scenario with locations := queue }⟩
      (.answer 0 (.ok []))

end Fleet.Rehearsal
