import Fleet.Proofs.Retry.Schedule
import Fleet.Proofs.Script.SideBySide
import Fleet.Rehearsal.World

/-!
# Scripts over a rehearsed network

Whatever happens at one address of a rehearsed network leaves the attempts and the events at the
others alone, and nothing changes what is arranged. So scripts on nodes at different addresses run
side by side as if each were alone, although they share counters, rules and one record of events.
-/

namespace Fleet.Rehearsal

namespace Network

/-- What sessions have done at an address, in order. -/
def eventsAt (network : Network) (address : Address) : List Event :=
  network.events.filter fun event => event.endpoint.address = address

/-- What is arranged stays as it was. -/
structure SameRules (before after : Network) : Prop where
  opensAfter : after.opensAfter = before.opensAfter
  closed : after.closed = before.closed
  rules : after.rules = before.rules
  unreachable : after.unreachable = before.unreachable

/-- What is recorded of an address stays as it was. -/
structure SameAt (address : Address) (before after : Network) : Prop where
  attempts : ∀ endpoint, endpoint.address = address →
    after.attemptsOn endpoint = before.attemptsOn endpoint
  events : after.eventsAt address = before.eventsAt address

theorem SameRules.refl (network : Network) : SameRules network network := ⟨rfl, rfl, rfl, rfl⟩

theorem SameRules.trans
    {first second third : Network}
    (early : SameRules first second)
    (late : SameRules second third) :
    SameRules first third :=
  ⟨late.opensAfter.trans early.opensAfter, late.closed.trans early.closed,
    late.rules.trans early.rules, late.unreachable.trans early.unreachable⟩

theorem SameRules.symm
    {before after : Network}
    (same : SameRules before after) :
    SameRules after before :=
  ⟨same.opensAfter.symm, same.closed.symm, same.rules.symm, same.unreachable.symm⟩

theorem SameAt.refl
    (address : Address)
    (network : Network) :
    SameAt address network network :=
  ⟨fun _ _ => rfl, rfl⟩

theorem SameAt.trans
    {address : Address}
    {first second third : Network}
    (early : SameAt address first second)
    (late : SameAt address second third) :
    SameAt address first third :=
  ⟨fun endpoint here => (late.attempts endpoint here).trans (early.attempts endpoint here),
    late.events.trans early.events⟩

theorem attemptsOn_test
    (network : Network)
    (endpoint other : Endpoint) :
    (network.test endpoint).2.attemptsOn other =
      if other = endpoint then min (network.attemptsOn endpoint + 1) Text.largest32
      else network.attemptsOn other := by
  simp only [attemptsOn, test, List.lookup_cons]
  by_cases same : other = endpoint
  · simp [same]
  · simp [same, beq_eq_false_iff_ne.2 same]

theorem eventsAt_record
    (network : Network)
    (event : Event)
    (address : Address) :
    (network.record event).eventsAt address =
      network.eventsAt address ++
        if event.endpoint.address = address then [event] else [] := by
  simp only [eventsAt, record, List.filter_append, List.filter_cons, List.filter_nil,
    decide_eq_true_eq]

/-- An event is recorded of its own address only. -/
theorem sameAt_record
    {network : Network}
    {event : Event}
    {address : Address}
    (elsewhere : address ≠ event.endpoint.address) :
    SameAt address network (network.record event)
      where
  attempts _ _ := rfl
  events := by rw [eventsAt_record, if_neg (Ne.symm elsewhere), List.append_nil]

theorem SameAt.record
    {address : Address}
    {own shared : Network}
    (same : SameAt address own shared)
    (event : Event) :
    SameAt address (own.record event) (shared.record event) where
  attempts := same.attempts
  events := by rw [eventsAt_record, eventsAt_record, same.events]

end Network

/-- An action on a network that happens at an address. -/
structure Local {α : Type} (address : Address) (action : Network → α × Network) : Prop where
  rules : ∀ network : Network, network.SameRules (action network).2
  elsewhere : ∀ network other,
    other ≠ address → Network.SameAt other network (action network).2
  same : ∀ own shared, Network.SameRules own shared → Network.SameAt address own shared →
    (action own).1 = (action shared).1 ∧ Network.SameAt address (action own).2 (action shared).2

theorem local_test (endpoint : Endpoint) : Local endpoint.address (Network.test endpoint) where
  rules network := ⟨rfl, rfl, rfl, rfl⟩
  elsewhere network other different := by
    refine ⟨fun port here => ?_, rfl⟩
    have another : port ≠ endpoint := fun same => different (by rw [← here, same])
    rw [Network.attemptsOn_test, if_neg another]
  same own shared rules same := by
    have counted := same.attempts endpoint rfl
    refine ⟨?_, fun port here => ?_, same.events⟩
    · simp only [Network.test, counted, rules.closed, rules.opensAfter]
    · rw [Network.attemptsOn_test, Network.attemptsOn_test, counted, same.attempts port here]

/-- Connecting happens at the address of the login. -/
theorem local_tryConnect
    (login : Login)
    (accepted : Bool) :
    Local login.endpoint.address (tryConnect login accepted) where
  rules network := by
    unfold tryConnect
    split
    · exact .refl network
    · cases accepted <;> exact ⟨rfl, rfl, rfl, rfl⟩
  elsewhere network other different := by
    unfold tryConnect
    split
    · exact .refl other network
    · cases accepted <;> exact Network.sameAt_record different
  same own shared rules same := by
    simp only [tryConnect, rules.unreachable]
    split
    · exact ⟨rfl, same⟩
    · cases accepted <;> exact ⟨rfl, same.record _⟩

/-- Executing a command happens at the address of the login. -/
theorem local_tryExecute
    (login : Login)
    (command : String) :
    Local login.endpoint.address (tryExecute login command) where
  rules network := by
    unfold tryExecute
    split <;> exact ⟨rfl, rfl, rfl, rfl⟩
  elsewhere network other different := by
    unfold tryExecute
    split
    · exact Network.sameAt_record different
    · exact .refl other network
  same own shared rules same := by
    have answered : shared.answer command = own.answer command := by
      rw [Network.answer, Network.answer, rules.rules]
    simp only [tryExecute, answered]
    split
    · exact ⟨rfl, same.record _⟩
    · exact ⟨rfl, same⟩

theorem local_disconnect (login : Login) :
    Local login.endpoint.address fun network =>
      ({ login with connected := false }, network.record (.disconnect login.endpoint)) where
  rules _ := ⟨rfl, rfl, rfl, rfl⟩
  elsewhere _ _ different := Network.sameAt_record different
  same _ _ _ same := ⟨rfl, same.record _⟩

theorem endpoint_tryConnect
    (login : Login)
    (accepted : Bool)
    (network : Network) :
    (tryConnect login accepted network).1.2.endpoint = login.endpoint := by
  unfold tryConnect
  split
  · rfl
  · cases accepted <;> rfl

theorem endpoint_tryExecute
    (login : Login)
    (command : String)
    (network : Network) :
    (tryExecute login command network).1.2.endpoint = login.endpoint := by
  unfold tryExecute
  split <;> rfl

namespace World

open Activity (Separate)

variable {π : Type}

/-- Scripts at an address rely on its own attempts and events, on what is arranged and on what
decides about logins, and they leave alone what is recorded of other addresses. -/
def atAddress (address : Address) : Contract (World π) where
  rely before after := after.provider = before.provider ∧
    before.network.SameRules after.network ∧ before.network.SameAt address after.network
  guarantee before after := after.provider = before.provider ∧
    before.network.SameRules after.network ∧
    ∀ other, other ≠ address → before.network.SameAt other after.network
  rely_refl world := ⟨rfl, .refl world.network, .refl address world.network⟩
  rely_trans _ _ _ early late :=
    ⟨late.1.trans early.1, early.2.1.trans late.2.1, early.2.2.trans late.2.2⟩
  guarantee_refl world := ⟨rfl, .refl world.network, fun other _ => .refl other world.network⟩

theorem compatible_atAddress
    {first second : Address}
    (different : first ≠ second) :
    (atAddress first : Contract (World π)).Compatible (atAddress second) where
  leftAllowed _ _ done := ⟨done.1, done.2.1, done.2.2 second different.symm⟩
  rightAllowed _ _ done := ⟨done.1, done.2.1, done.2.2 first different⟩

/-- An action at an address that depends on the provider besides. -/
theorem separate_local
    {α : Type}
    {address : Address}
    {goal : α → Prop}
    (action : World π → Network → α × Network)
    (happens : ∀ world, Local address (action world))
    (decided : ∀ own shared : World π, shared.provider = own.provider →
      action shared = action own)
    (met : ∀ world network, goal (action world network).1) :
    (Activity.perform fun _ (world : World π) =>
      ((action world world.network).1,
        { world with network := (action world world.network).2 })).Separate
      (atAddress address) goal := by
  intro now own shared relied
  obtain ⟨provider, rules, same⟩ := relied
  obtain ⟨answered, alike⟩ := (happens own).same own.network shared.network rules same
  have kept := ((happens own).rules own.network).symm.trans
    (rules.trans ((happens own).rules shared.network))
  simp only [decided own shared provider]
  refine ⟨⟨rfl, (happens own).rules shared.network, (happens own).elsewhere shared.network⟩,
    ⟨provider, kept, alike⟩, congrArg Activity.done answered, met own shared.network⟩

variable (accepts : π → Address → Credentials → Bool)

/-- The executor over a rehearsed network, when the provider decides about logins. -/
abbrev providerExecutor : Executor (World π) Login :=
  executor fun world => accepts world.provider

/-- The executor of a rehearsed network does at one address what is no concern of the others. -/
theorem partitioned :
    (providerExecutor accepts).Partitioned atAddress fun login => login.endpoint.address where
  apart _ _ different := compatible_atAddress different
  tokens address := by
    refine ⟨_, _, rfl, fun now own shared relied => ?_⟩
    exact ⟨⟨rfl, .refl _, fun other _ => .refl other _⟩, [shared.tokens.next], own,
      .done shared.tokens.next, fun more => ⟨rfl, rfl⟩, relied, rfl, trivial⟩
  probes endpoint :=
    separate_local (fun _ => Network.test endpoint) (fun _ => local_test endpoint)
      (fun _ _ _ => rfl) fun _ _ => trivial
  creates _ _ := rfl
  connects login := by
    let accepted := fun world : World π =>
      accepts world.provider login.endpoint.address login.credentials
    refine separate_local (fun world => tryConnect login (accepted world))
      (fun world => local_tryConnect login (accepted world)) ?_ ?_
    · intro own shared provider
      simp only [accepted, provider]
    · intro world network
      rw [endpoint_tryConnect]
  executes login command := by
    refine separate_local (fun _ => tryExecute login command)
      (fun _ => local_tryExecute login command) (fun _ _ _ => rfl) ?_
    intro world network
    rw [endpoint_tryExecute]
  disconnects login :=
    separate_local _ (fun _ => local_disconnect login) (fun _ _ _ => rfl) fun _ _ => trivial

theorem answering : (providerExecutor accepts).Answering where
  tokens _ _ := ⟨_, rfl⟩
  connects _ _ _ := ⟨_, rfl⟩
  executes _ _ _ _ := ⟨_, rfl⟩
  disconnects _ _ _ := ⟨_, rfl⟩

/-- Where a node is reached, the same is recorded in two worlds. -/
def SameOn (node : Node) (own reached : World π) : Prop :=
  ∀ address, node.primaryAddress = some address → own.network.SameAt address reached.network

/-- A script has run on several nodes as on each of them alone: the table has the results of the
runs alone, each address has seen what it sees in the run alone, and it took as long as the longest
run alone. -/
structure AsAlone (nodes : List Node) (script : String) (options : RunOptions) (now : Nat)
    (world : World π) (table : Table (Except ScriptFailure Response)) (later : Nat)
    (reached : World π) : Prop where
  keys : ∀ id, id ∈ table.keys ↔ ∃ node ∈ nodes, node.id = id
  each : ∃ endings : List Nat, later = endings.foldr max now ∧
    List.Forall₂ (fun node ended => ∃ result own, table.find? node.id = some result ∧
      (providerExecutor accepts).RunsAlone script options now world node result ended own ∧
      SameOn node own reached) nodes endings

variable {accepts} {nodes : List Node} {script : String} {options : RunOptions} {now : Nat}
  {world : World π}

theorem sameOn_of_rely
    {node : Node}
    {own reached : World π}
    (relied : (Executor.contractOf atAddress node).rely own reached) :
    SameOn node own reached := by
  intro address addressed
  rw [Executor.contractOf_eq atAddress addressed] at relied
  exact relied.2.2

/-- Runs that have come to an end in some order have done what each of them does alone. -/
theorem asAlone_of_leads
    (distinct : (nodes.map Node.id).Nodup)
    (elsewhere : nodes.Pairwise fun first second => ∀ address,
      first.primaryAddress = some address → second.primaryAddress ≠ some address)
    {entries : List (NodeId × Except ScriptFailure Response)}
    {later : Nat}
    {reached : World π}
    (leads : Crew.Leads ⟨(providerExecutor accepts).pipelines nodes script options, now, world⟩
      (Crew.finished entries later reached)) :
    AsAlone accepts nodes script options now world (Table.ofList entries) later reached := by
  obtain ⟨names, endings, latest, each⟩ :=
    (partitioned accepts).endings_of_leads elsewhere leads
  refine ⟨fun id => ?_, endings, latest, each.imp ?_⟩
  · rw [Table.mem_keys_ofList_iff, names, List.mem_map]
  · rintro node ended ⟨result, own, listed, relied, alone⟩
    exact ⟨result, own, Table.find?_ofList (names ▸ distinct) listed, alone,
      sameOn_of_rely relied⟩

/-- The wait for a port of the network ends when its budget does. -/
theorem run_runScript_ne_none
    (positive : 0 < options.socketWait.period)
    (represented : (Clock.later now options.socketWait.budget).isSome = true)
    (node : Node) :
    ((providerExecutor accepts).runScript node script options).run now world ≠ none := by
  rw [Ne, (answering accepts).run_runScript_eq_none_iff,
    (answering accepts).run_openSession_eq_none_iff]
  rintro ⟨address, -, hangs⟩
  exact PollPolicy.run_waitUntil_ne_none _ world positive represented hangs

variable (accepts) (nodes script options now world)

/-- A script on nodes of different names at different addresses of a rehearsed network. In whatever
order the runs on the nodes advance, they come to an end if each of them does alone, and each of
them has done what it does alone. The run that looks after all of them follows one of the orders,
and it returns exactly when each run alone does: always, when the budget for the port ends within
the clock. A run alone is handed its tokens; the run that draws them itself does the same. -/
theorem scripts_run_as_alone
    (distinct : (nodes.map Node.id).Nodup)
    (elsewhere : (nodes.filterMap Node.primaryAddress).Nodup) :
    (∀ entries later reached,
      Crew.Leads ⟨(providerExecutor accepts).pipelines nodes script options, now, world⟩
        (Crew.finished entries later reached) →
      AsAlone accepts nodes script options now world (Table.ofList entries) later reached) ∧
    ((∀ node ∈ nodes,
        ((providerExecutor accepts).runScript node script options).run now world ≠ none) →
      Crew.Inevitably
        (fun crew => ∃ entries later reached, crew = Crew.finished entries later reached)
        ⟨(providerExecutor accepts).pipelines nodes script options, now, world⟩) ∧
    (∀ table later reached,
      ((providerExecutor accepts).runScriptOnAll nodes script options).run now world =
        some (table, later, reached) →
      AsAlone accepts nodes script options now world table later reached ∧
      ∃ entries, table = Table.ofList entries ∧
        Crew.Leads ⟨(providerExecutor accepts).pipelines nodes script options, now, world⟩
          (Crew.finished entries later reached)) ∧
    (((providerExecutor accepts).runScriptOnAll nodes script options).run now world ≠ none ↔
      ∀ node ∈ nodes,
        ((providerExecutor accepts).runScript node script options).run now world ≠ none) ∧
    (0 < options.socketWait.period → (Clock.later now options.socketWait.budget).isSome = true →
      ∀ node ∈ nodes,
        ((providerExecutor accepts).runScript node script options).run now world ≠ none) ∧
    (∀ node ∈ nodes, ∀ result ended own,
      ((providerExecutor accepts).runScript node script options).run now world =
        some (result, ended, own) →
      ∃ same, (providerExecutor accepts).RunsAlone
        script options now world node result ended same ∧
        SameOn node same own) := by
  have apart : nodes.Pairwise fun first second => ∀ address,
      first.primaryAddress = some address → second.primaryAddress ≠ some address :=
    (List.pairwise_filterMap.1 elsewhere).imp fun different address here there =>
      different address here address there rfl
  refine ⟨fun entries later reached leads => asAlone_of_leads distinct apart leads,
    ?_, ?_, ?_, ?_,
    ?_⟩
  · exact (partitioned accepts).inevitably_finished (answering accepts) apart
  · intro table later reached ran
    obtain ⟨entries, rfl, leads⟩ := Executor.leads_of_run_runScriptOnAll ran
    exact ⟨asAlone_of_leads distinct apart leads, entries, rfl, leads⟩
  · exact (partitioned accepts).run_runScriptOnAll_ne_none_iff (answering accepts) apart
  · intro positive represented node _
    exact run_runScript_ne_none positive represented node
  · intro node _ result ended own ran
    obtain ⟨same, relied, alone⟩ := (partitioned accepts).runsAlone_of_run ran
    exact ⟨same, alone, sameOn_of_rely relied⟩

end World

/-- A node of which nothing is known but its name and its address. -/
def nodeAt (id : NodeId) (address : Address) : Node :=
  { id := id, tag := "", name := id, state := .running, image := "", location := "",
    publicAddresses := [address], privateAddresses := [], credentials := none, metadata := .empty }

/-- A port that stays closed does not keep a script from the node beside it. -/
theorem closed_port_beside_open_port :
    let world : World Unit := { provider := (), network := { closed := [.v4 198 51 100 20] } }
    let nodes := [nodeAt "n1" (.v4 198 51 100 20), nodeAt "n2" (.v4 198 51 100 21)]
    let options : RunOptions := { override := some { account := "root", key := "k" } }
    let accepts : Unit → Address → Credentials → Bool := fun _ _ _ => true
    ∃ table reached,
      ((World.providerExecutor accepts).runScriptOnAll nodes "echo" options).run 0 world =
        some (table, Duration.ofSeconds 60, reached) ∧
      table.find? "n1" =
        some (.error (.socketTimeout "n1" { address := .v4 198 51 100 20, port := 22 })) ∧
      table.find? "n2" = some (.ok { exitStatus := some 0 }) ∧
      World.AsAlone accepts nodes "echo" options 0 world table (Duration.ofSeconds 60) reached := by
  intro world nodes options accepts
  obtain ⟨-, -, alone, -⟩ :=
    World.scripts_run_as_alone accepts nodes "echo" options 0 world (by decide) (by decide)
  have outcome : (((World.providerExecutor accepts).runScriptOnAll nodes "echo" options).run 0
      world).map (fun (table, later, _) => (table.find? "n1", table.find? "n2", later)) =
      some (some (.error (.socketTimeout "n1" { address := .v4 198 51 100 20, port := 22 })),
        some (.ok { exitStatus := some 0 }), Duration.ofSeconds 60) := by
    decide +kernel
  obtain ⟨⟨table, later, reached⟩, ran, shown⟩ := Option.map_eq_some_iff.1 outcome
  obtain ⟨first, second, rfl⟩ : _ ∧ _ ∧ later = _ := by
    simpa only [Prod.mk.injEq] using shown
  exact ⟨table, reached, ran, first, second, (alone _ _ _ ran).1⟩

end Fleet.Rehearsal
