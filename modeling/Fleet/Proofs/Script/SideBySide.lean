import Fleet.Proofs.Activity.Conduct
import Fleet.Proofs.Activity.Isolation
import Fleet.Proofs.Retry.Polling
import Fleet.Proofs.Script.Sessions
import Fleet.Proofs.Table

/-!
# Scripts side by side

What an executor does at one address may be no concern of what it does at the others. Then scripts
that run on nodes at different addresses do not notice each other: in whatever order they advance,
each of them does what it does alone, when it is handed the tokens that it has drawn, and all of
them finish with the last.
-/

namespace Fleet

variable {σ S μ : Type}

/-! ## Waits -/

namespace PollPolicy

open Activity (Separate)

variable {contract : Contract σ} {test : μ → Activity σ (Bool × μ)}
  (separate : ∀ memory, (test memory).Separate contract fun _ => True)

include separate

theorem separate_evaluate
    (deadline : Option Nat)
    (memory : μ) :
    (evaluate deadline test memory).Separate contract fun _ => True := by
  cases deadline with
  | none => exact separate memory
  | some final =>
    apply Activity.separate_currentInstant.bind
    intro now _
    apply ((separate memory).limited (final - now)).bind
    intro answer _
    trivial

/-- A wait keeps to itself when its test does. -/
theorem separate_poll
    (period : Nat)
    (deadline : Option Nat)
    (remaining : Nat)
    (memory : μ) :
    (poll period deadline test remaining memory).Separate contract fun _ => True := by
  induction remaining generalizing memory with
  | zero => trivial
  | succ remaining inductionHypothesis =>
    apply (separate_evaluate separate deadline memory).bind
    rintro ⟨holds, memory⟩ _
    cases holds with
    | true => trivial
    | false =>
      apply Activity.separate_currentInstant.bind
      intro now _
      split
      · trivial
      · apply (Activity.separate_sleep period).bind
        intro _ _
        apply Activity.separate_currentInstant.bind
        intro later _
        split
        · trivial
        · exact inductionHypothesis memory

theorem separate_follow
    (policy : PollPolicy)
    (memory : μ) :
    (policy.follow test memory).Separate contract fun _ => True := by
  apply Activity.separate_currentInstant.bind
  intro now _
  exact separate_poll separate policy.period _ _ memory

omit separate

theorem separate_waitUntil
    {test : Activity σ Bool}
    (separate : test.Separate contract fun _ => True)
    (policy : PollPolicy) :
    (policy.waitUntil test).Separate contract fun _ => True := by
  have tested : ∀ memory : Unit,
      (test.bind fun holds => .done (holds, ())).Separate contract fun _ => True :=
    fun _ => separate.bind fun _ _ => trivial
  apply (separate_follow tested policy ()).bind
  intro answer _
  trivial

end PollPolicy

namespace Executor

open Activity (Separate Mirrors)

/-! ## Tokens in advance -/

/-- The executor over a state beside which stand the tokens that it is handed. -/
def handed (executor : Executor σ S) : Executor (σ × List String) S where
  transport :=
    { create := executor.transport.create
      connect := fun session =>
        (executor.transport.connect session).focus (Part.first σ (List String))
      execute := fun session command =>
        (executor.transport.execute session command).focus (Part.first σ (List String))
      disconnect := fun session =>
        (executor.transport.disconnect session).focus (Part.first σ (List String)) }
  probe endpoint := (executor.probe endpoint).focus (Part.first σ (List String))
  freshToken := Activity.perform fun _ whole => (whole.2.headD "", whole.1, whole.2.tail)

theorem discard_focus
    {τ : Type}
    (part : Part τ σ)
    (activity : Activity σ S) :
    discard (activity.focus part) = (discard activity).focus part :=
  (Activity.focus_bind part activity fun _ => .done ()).symm

/-- Logging in needs no token. -/
theorem logIn_handed
    (executor : Executor σ S)
    (node : NodeId)
    (endpoint : Endpoint)
    (login : Credentials) :
    logIn executor.handed.transport node endpoint login =
      (logIn executor.transport node endpoint login).focus (Part.first σ (List String)) := by
  simp only [logIn, handed, Activity.bind_eq_bind, Activity.focus_bind]
  congr 1
  funext answer
  rcases answer with ⟨_ | _, session⟩
  · simp only [discard_focus, Activity.focus_bind]
    rfl
  · rfl

/-- No token is needed to open a session. -/
theorem openSession_handed
    (executor : Executor σ S)
    (node : Node)
    (options : RunOptions) :
    executor.handed.openSession node options =
      (executor.openSession node options).focus (Part.first σ (List String)) := by
  unfold openSession
  cases node.primaryAddress with
  | none => rfl
  | some address =>
    have waits := PollPolicy.waitUntil_focus (Activity.exact_first σ (List String))
      options.socketWait (executor.probe { address := address, port := options.port })
    simp only [awaitSocket, Activity.bind_eq_bind, Activity.focus_bind, ← waits]
    congr 1
    funext isOpen
    cases isOpen with
    | false => rfl
    | true =>
      cases options.credentialsFor node with
      | none => rfl
      | some login => exact logIn_handed executor node.id _ login

theorem executeIn_handed
    (executor : Executor σ S)
    (node : NodeId)
    (command : String)
    (session : S) :
    executeIn executor.handed.transport node command session =
      (executeIn executor.transport node command session).focus (Part.first σ (List String)) := by
  simp only [executeIn, handed, Activity.bind_eq_bind, Activity.focus_bind]
  congr 1
  funext answer
  rcases answer with ⟨_ | _, session⟩ <;> rfl

/-! ## Addresses apart -/

/-- What an executor does at one address is no concern of what it does at the others. Every session
belongs to an address. -/
structure Partitioned (executor : Executor σ S) (contract : Address → Contract σ)
    (home : S → Address) : Prop where
  apart : ∀ first second, first ≠ second → (contract first).Compatible (contract second)
  tokens : ∀ address, executor.freshToken.Mirrors (contract address) (fun _ => True)
    executor.handed.freshToken
  probes : ∀ endpoint,
    (executor.probe endpoint).Separate (contract endpoint.address) fun _ => True
  creates : ∀ endpoint login, home (executor.transport.create endpoint login) = endpoint.address
  connects : ∀ session, (executor.transport.connect session).Separate (contract (home session))
    fun answer => home answer.2 = home session
  executes : ∀ session command,
    (executor.transport.execute session command).Separate (contract (home session))
      fun answer => home answer.2 = home session
  disconnects : ∀ session,
    (executor.transport.disconnect session).Separate (contract (home session)) fun _ => True

/-- The contract of a script on a node; without an address it does nothing. -/
def contractOf (contract : Address → Contract σ) (node : Node) : Contract σ :=
  node.primaryAddress.elim Contract.idle contract

theorem contractOf_eq
    {node : Node}
    {address : Address}
    (contract : Address → Contract σ)
    (addressed : node.primaryAddress = some address) :
    contractOf contract node = contract address := by
  rw [contractOf, addressed]
  rfl

namespace Partitioned

variable {executor : Executor σ S} {contract : Address → Contract σ} {home : S → Address}
  (partitioned : executor.Partitioned contract home) {address : Address} {session : S}

include partitioned

theorem separate_release (homed : home session = address) :
    (discard (executor.transport.disconnect session)).Separate (contract address)
      fun _ => True := by
  have separate := partitioned.disconnects session
  rw [homed] at separate
  exact separate.bind fun _ _ => trivial

/-- Logging in concerns the address of the login only, and a session that results belongs to this
address. -/
theorem separate_logIn
    (node : NodeId)
    (endpoint : Endpoint)
    (login : Credentials) :
    (logIn executor.transport node endpoint login).Separate (contract endpoint.address)
      fun result => ∀ session, result = .ok session → home session = endpoint.address := by
  have separate := partitioned.connects (executor.transport.create endpoint login)
  rw [partitioned.creates] at separate
  apply separate.bind
  rintro ⟨answer, session⟩ homed
  cases answer with
  | ok _ =>
    rintro _ ⟨⟩
    exact homed
  | error error =>
    apply (partitioned.separate_release homed).bind
    rintro _ _ _ ⟨⟩

/-- Opening a session on a node concerns its address only. -/
theorem separate_openSession
    {node : Node}
    (addressed : node.primaryAddress = some address)
    (options : RunOptions) :
    (executor.openSession node options).Separate (contract address)
      fun result => ∀ session, result = .ok session → home session = address := by
  unfold openSession
  rw [addressed]
  let endpoint : Endpoint := { address := address, port := options.port }
  apply (PollPolicy.separate_waitUntil (partitioned.probes endpoint) options.socketWait).bind
  intro isOpen _
  cases isOpen with
  | false => rintro _ ⟨⟩
  | true =>
    cases options.credentialsFor node with
    | none => rintro _ ⟨⟩
    | some login => exact partitioned.separate_logIn node.id endpoint login

theorem separate_executeIn
    (node : NodeId)
    (command : String)
    (homed : home session = address) :
    (executeIn executor.transport node command session).Separate (contract address)
      fun answer => home answer.2 = address := by
  have separate := partitioned.executes session command
  rw [homed] at separate
  apply separate.bind
  rintro ⟨answer, session⟩ stays
  cases answer <;> exact stays

theorem mirrors_executeIn
    (node : NodeId)
    (command : String)
    (homed : home session = address) :
    (executeIn executor.transport node command session).Mirrors (contract address)
      (fun answer => home answer.2 = address)
      (executeIn executor.handed.transport node command session) := by
  rw [executeIn_handed]
  exact (partitioned.separate_executeIn node command homed).mirrors

/-- The upload and the run are mirrored by those that are handed their token. -/
theorem mirrors_uploadAndRun
    (node : NodeId)
    (script : String)
    (homed : home session = address) :
    (executor.uploadAndRun node script session).Mirrors (contract address)
      (fun answer => home answer.2 = address)
      (executor.handed.uploadAndRun node script session) := by
  apply (partitioned.tokens address).bind
  intro token _
  apply (partitioned.tokens address).bind
  intro limit _
  apply (partitioned.mirrors_executeIn node _ homed).bind
  rintro ⟨result, session⟩ stays
  cases result with
  | error failure => exact ⟨rfl, stays⟩
  | ok upload =>
    show Mirrors _ _ (if upload.exitStatus = some 0 then _ else _)
      (if upload.exitStatus = some 0 then _ else _)
    split
    · exact partitioned.mirrors_executeIn node _ stays
    · exact ⟨rfl, stays⟩

/-- A script does on a node what it does there alone, handed the same tokens. -/
theorem mirrors_runScript
    (node : Node)
    (script : String)
    (options : RunOptions) :
    (executor.runScript node script options).Mirrors (contractOf contract node) (fun _ => True)
      (executor.handed.runScript node script options) := by
  simp only [runScript, withSession, openSession_handed]
  cases addressed : node.primaryAddress with
  | none =>
    simp only [openSession, addressed]
    exact ⟨rfl, trivial⟩
  | some address =>
    rw [contractOf_eq contract addressed]
    apply (partitioned.separate_openSession addressed options).mirrors.bind
    rintro (failure | session) homed
    · exact ⟨rfl, trivial⟩
    · apply (partitioned.mirrors_uploadAndRun node.id script (homed session rfl)).bind
      rintro ⟨result, session⟩ stays
      have released := (partitioned.separate_release stays).mirrors (κ := String)
      rw [← discard_focus] at released
      exact released.bind fun _ _ => ⟨rfl, trivial⟩

end Partitioned

/-! ## Runs on several nodes -/

variable (executor : Executor σ S) (contract : Address → Contract σ) (nodes : List Node)
  (script : String) (options : RunOptions) (now : Nat) (state : σ)

/-- The runs of a script on several nodes, each with the name of its node. -/
def pipelines : List (Activity σ (NodeId × Except ScriptFailure Response)) :=
  nodes.map fun node => do
    let result ← executor.runScript node script options
    pure (node.id, result)

theorem runScriptOnAll_eq :
    executor.runScriptOnAll nodes script options =
      (Activity.gathered (executor.pipelines nodes script options)).bind fun entries =>
        .done (Table.ofList entries) := rfl

/-- The run of a script on a node beside which nothing else runs. -/
def lane (node : Node) : Lane σ String (NodeId × Except ScriptFailure Response) where
  contract := contractOf contract node
  alone := do
    let result ← executor.handed.runScript node script options
    pure (node.id, result)

/-- Alone, and handed as many tokens as it needs, the run on a node ends with a result at an instant
in a state. -/
def RunsAlone
    (node : Node)
    (result : Except ScriptFailure Response)
    (ended : Nat)
    (own : σ) :
    Prop :=
  ∃ tokens, (executor.handed.runScript node script options).run now (state, tokens) =
    some (result, ended, own, [])

variable {executor contract nodes script options now state}

/-- The end of a lane alone is the end of a run alone. -/
theorem runsAlone_of_endsAlone
    {node : Node}
    {entry : NodeId × Except ScriptFailure Response}
    {ended : Nat}
    {reached : σ}
    (ends : (executor.lane contract script options node).EndsAlone now state entry ended reached) :
    entry.1 = node.id ∧ ∃ own, (contractOf contract node).rely own reached ∧
      executor.RunsAlone script options now state node entry.2 ended own := by
  obtain ⟨tokens, own, relied, each⟩ := ends
  have ran := each []
  rw [List.append_nil, lane, Activity.bind_eq_bind, Activity.run_bind] at ran
  obtain ⟨⟨result, later, left⟩, finished, same⟩ := Option.bind_eq_some_iff.1 ran
  cases same
  exact ⟨rfl, own, relied, tokens, finished⟩

/-- The entries of a group whose members end as they do alone. -/
theorem exists_endings
    {entries : List (NodeId × Except ScriptFailure Response)}
    {later : Nat}
    {reached : σ}
    (attained : Activity.AllAttained (Lane.EndsAlone now state) now
      (nodes.map (executor.lane contract script options)) entries later reached) :
    entries.map Prod.fst = nodes.map Node.id ∧
    ∃ endings, later = endings.foldr max now ∧
      List.Forall₂ (fun node ended => ∃ result own, (node.id, result) ∈ entries ∧
        (contractOf contract node).rely own reached ∧
        executor.RunsAlone script options now state node result ended own) nodes endings := by
  induction nodes generalizing entries later with
  | nil =>
    cases attained
    exact ⟨rfl, [], rfl, .nil⟩
  | cons node rest inductionHypothesis =>
    cases attained with
    | @cons _ _ entry entries ended _ _ first others =>
      obtain ⟨named, own, relied, alone⟩ := runsAlone_of_endsAlone first
      obtain ⟨names, endings, rfl, each⟩ := inductionHypothesis others
      refine ⟨by rw [List.map_cons, List.map_cons, named, names], ended :: endings, rfl, ?_⟩
      refine .cons ⟨entry.2, own, ?_, relied, alone⟩ (each.imp ?_)
      · rw [← named]
        exact List.mem_cons_self
      · rintro other otherEnded ⟨result, own, listed, further⟩
        exact ⟨result, own, List.mem_cons_of_mem entry listed, further⟩

theorem Answering.handed (answering : executor.Answering) : executor.handed.Answering where
  tokens _ _ := ⟨_, rfl⟩
  connects session := (answering.connects session).focus_first
  executes session command := (answering.executes session command).focus_first
  disconnects session := (answering.disconnects session).focus_first

/-- No tokens make a difference to whether a run ends. -/
theorem Answering.run_handed_eq_none_iff
    (answering : executor.Answering)
    (node : Node)
    (tokens : List String) :
    (executor.handed.runScript node script options).run now (state, tokens) = none ↔
      (executor.runScript node script options).run now state = none := by
  rw [answering.handed.run_runScript_eq_none_iff, answering.run_runScript_eq_none_iff,
    openSession_handed, Activity.run_focus_first, Option.map_eq_none_iff]

/-- The runs of a script on several nodes advance in one of the possible orders. -/
theorem leads_of_run_runScriptOnAll
    {table : Table (Except ScriptFailure Response)}
    {later : Nat}
    {reached : σ}
    (ran : (executor.runScriptOnAll nodes script options).run now state =
      some (table, later, reached)) :
    ∃ entries, table = Table.ofList entries ∧
      Crew.Leads ⟨executor.pipelines nodes script options, now, state⟩
        (Crew.finished entries later reached) := by
  rw [runScriptOnAll_eq, Activity.run_bind] at ran
  obtain ⟨⟨entries, later, reached⟩, gathered, same⟩ := Option.bind_eq_some_iff.1 ran
  cases same
  exact ⟨entries, rfl, Crew.leads_of_run_gathered gathered⟩

namespace Partitioned

variable {home : S → Address} (partitioned : executor.Partitioned contract home)
  (answering : executor.Answering)
  (elsewhere : nodes.Pairwise fun first second => ∀ address,
    first.primaryAddress = some address → second.primaryAddress ≠ some address)

include partitioned

/-- A run that draws its tokens itself does what it does when it is handed them. -/
theorem runsAlone_of_run
    {node : Node}
    {result : Except ScriptFailure Response}
    {ended : Nat}
    {own : σ}
    (ran : (executor.runScript node script options).run now state = some (result, ended, own)) :
    ∃ left, (contractOf contract node).rely left own ∧
      executor.RunsAlone script options now state node result ended left := by
  obtain ⟨tokens, left, relied, each⟩ := (partitioned.mirrors_runScript node script options).run
    ((contractOf contract node).rely_refl state) ran
  have finished := each []
  rw [List.append_nil] at finished
  exact ⟨left, relied, tokens, finished⟩

theorem mirrors_pipelines :
    List.Forall₂ (fun lane member => member.Mirrors lane.contract (fun _ => True) lane.alone)
      (nodes.map (executor.lane contract script options))
      (executor.pipelines nodes script options) := by
  refine List.forall₂_map_left_iff.2 (List.forall₂_map_right_iff.2 (List.forall₂_same.2 ?_))
  intro node _
  exact (partitioned.mirrors_runScript node script options).bind fun _ _ => ⟨rfl, trivial⟩

include elsewhere

/-- Runs on nodes at different addresses do not get in each other's way. -/
theorem lanes_apart :
    (nodes.map (executor.lane contract script options)).Pairwise fun first second =>
      first.contract.Compatible second.contract := by
  refine List.pairwise_map.2 (elsewhere.imp ?_)
  intro first second different
  show (contractOf contract first).Compatible (contractOf contract second)
  cases addressed : first.primaryAddress with
  | none =>
    rw [contractOf, addressed]
    exact (Contract.compatible_idle _).symm
  | some address =>
    rw [contractOf_eq contract addressed]
    cases other : second.primaryAddress with
    | none =>
      rw [contractOf, other]
      exact Contract.compatible_idle _
    | some place =>
      rw [contractOf_eq contract other]
      refine partitioned.apart address place fun same => different address addressed ?_
      rw [other, same]

/-- Whatever the order is in which the runs advance, each ends as it does alone. -/
theorem endings_of_leads
    {entries : List (NodeId × Except ScriptFailure Response)}
    {later : Nat}
    {reached : σ}
    (leads : Crew.Leads ⟨executor.pipelines nodes script options, now, state⟩
      (Crew.finished entries later reached)) :
    entries.map Prod.fst = nodes.map Node.id ∧
    ∃ endings, later = endings.foldr max now ∧
      List.Forall₂ (fun node ended => ∃ result own, (node.id, result) ∈ entries ∧
        (contractOf contract node).rely own reached ∧
        executor.RunsAlone script options now state node result ended own) nodes endings :=
  exists_endings (Crew.endsAlone_of_leads (partitioned.lanes_apart elsewhere)
    partitioned.mirrors_pipelines leads)

include answering

/-- A run that gets stuck beside others never ends alone. -/
theorem exists_hangs_of_leads
    {last : Crew σ (NodeId × Except ScriptFailure Response)}
    (leads : Crew.Leads ⟨executor.pipelines nodes script options, now, state⟩ last)
    (stuck : .hang ∈ last.members) :
    ∃ node ∈ nodes, (executor.runScript node script options).run now state = none := by
  obtain ⟨_, listed, tokens, hangs⟩ := Crew.hangsAlone_of_leads
    (partitioned.lanes_apart elsewhere) partitioned.mirrors_pipelines leads stuck
  obtain ⟨node, inNodes, rfl⟩ := List.mem_map.1 listed
  refine ⟨node, inNodes, ?_⟩
  have alone : ((executor.handed.runScript node script options).bind fun result =>
      .done (node.id, result)).run now (state, tokens ++ []) = none := hangs []
  rw [Activity.run_bind_eq_none_iff fun _ => Activity.ends_done _] at alone
  exact (answering.run_handed_eq_none_iff node _).1 alone

/-- Runs that all end alone end side by side, whatever the order is. -/
theorem inevitably_finished
    (returns : ∀ node ∈ nodes,
      (executor.runScript node script options).run now state ≠ none) :
    Crew.Inevitably
      (fun crew => ∃ entries later reached, crew = Crew.finished entries later reached)
      ⟨executor.pipelines nodes script options, now, state⟩ := by
  apply Crew.inevitably_of_ended
  intro last leads ended
  rcases Crew.hangs_or_finished ended with stuck | ⟨entries, finished⟩
  · obtain ⟨node, inNodes, hangs⟩ :=
      partitioned.exists_hangs_of_leads answering elsewhere leads stuck
    exact absurd hangs (returns node inNodes)
  · obtain ⟨members, later, reached⟩ := last
    obtain rfl : members = _ := finished
    exact ⟨entries, later, reached, rfl⟩

/-- A run on several nodes returns exactly when the run on each of them alone does. -/
theorem run_runScriptOnAll_ne_none_iff :
    (executor.runScriptOnAll nodes script options).run now state ≠ none ↔
      ∀ node ∈ nodes, (executor.runScript node script options).run now state ≠ none := by
  constructor
  · intro returns node inNodes
    obtain ⟨⟨table, later, reached⟩, ran⟩ := Option.ne_none_iff_exists'.1 returns
    obtain ⟨entries, -, leads⟩ := leads_of_run_runScriptOnAll ran
    obtain ⟨-, endings, -, each⟩ := partitioned.endings_of_leads elsewhere leads
    obtain ⟨position, here⟩ := List.mem_iff_getElem?.1 inNodes
    obtain ⟨ended, -, ⟨result, own, -, -, tokens, finished⟩, -⟩ :=
      Crew.exists_beside each.flip here
    rw [Ne, ← answering.run_handed_eq_none_iff node tokens, finished]
    exact Option.some_ne_none _
  · intro returns stuck
    rw [runScriptOnAll_eq,
      Activity.run_bind_eq_none_iff fun _ => Activity.ends_done _] at stuck
    obtain ⟨last, leads, hangs⟩ := Crew.leads_to_hang_of_run_gathered stuck
    obtain ⟨node, inNodes, alone⟩ :=
      partitioned.exists_hangs_of_leads answering elsewhere leads hangs
    exact returns node inNodes alone

end Partitioned

end Executor

end Fleet
