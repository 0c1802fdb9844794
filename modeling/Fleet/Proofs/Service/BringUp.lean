import Fleet.Proofs.Retry.Polling
import Fleet.Service.BringUp
import Fleet.Service.Settle

/-!
# What a node that came up went through

Bringing a node up is a sequence of steps that are each reported when they fail. A node that is
counted as up has therefore been through all of them: the provider showed it running, its port was
found open, and its script completed.

A wait for a node reports what its looks at the node saw: a node that is said to run was shown
running, in a well-formed record, by the provider itself.
-/

namespace Fleet

/-! ## What a wait has seen -/

namespace Sighting

/-- Whatever was remembered before, the last look is remembered. -/
@[simp]
theorem last_note
    (sighting : Sighting)
    (look : Except ProviderFailure Node) :
    (sighting.note look).2.last = some look := by
  cases look with
  | error failure => rfl
  | ok node =>
    simp only [note]
    split <;> rfl

/-- A wait comes to a running node only when its last look showed that node. -/
theorem outcome_eq_running
    {sighting : Sighting}
    {id : NodeId}
    {ended : Bool}
    {node : Node}
    (running : sighting.outcome id ended = .running node) :
    sighting.last = some (.ok node) ∧ node.state = .running ∧
      node.checkInvariants = .ok () := by
  simp only [outcome] at running
  split at running
  · cases running
  · rename_i lawful
    split at running
    · cases running
    · cases running
    · rename_i seen last
      split at running
      · split at running
        · rename_i ended runs
          split at running
          · rename_i checked
            cases running
            exact ⟨last, runs, checked⟩
          · cases running
        · cases running
      · cases running

end Sighting

namespace Service

variable {σ S : Type}

/-- A look gives what the provider shows. -/
theorem occurs_of_look
    {provider : Provider σ}
    {id : NodeId}
    {sighting : Sighting}
    {path : List (Moment σ)}
    {answer : Bool × Sighting}
    (followed : (look provider id sighting).Occurs path answer) :
    ∃ shown, (provider.get id).Occurs path shown ∧ answer = sighting.note shown :=
  (Activity.occurs_map_iff sighting.note (provider.get id) path answer).1 followed

/-- A node that settles as running was shown so by the provider. -/
theorem running_of_awaitSettled
    {service : Service σ S}
    {id : NodeId}
    {known : NodeState}
    {path : List (Moment σ)}
    {node : Node}
    (followed : (service.awaitSettled id known).along path = some (.running node)) :
    node.state = .running ∧ node.checkInvariants = .ok () ∧
      (service.provider.get id).Occurs path (.ok node) := by
  rcases (Activity.along_bind_iff _ _ _ _).1 followed with
    ⟨early, late, ⟨ended, sighting⟩, rfl, waited, concluded⟩
  rcases (Activity.along_done_iff _ _ _).1 concluded with ⟨rfl, running⟩
  rcases Sighting.outcome_eq_running running.symm with ⟨last, runs, wellFormed⟩
  have shown : ∀ node, sighting.last = some (.ok node) →
      (service.provider.get id).Occurs early (.ok node) := by
    refine PollPolicy.follow_preserves
      (fun _ sighting => ∀ node, sighting.last = some (.ok node) →
        (service.provider.get id).Occurs early (.ok node)) ?_ (by simp) waited
    intro before answer _ looked node last
    rcases occurs_of_look looked with ⟨shown, occurs, rfl⟩
    have same : shown = .ok node := by simpa using last
    exact same ▸ occurs
  exact ⟨runs, wellFormed, (shown node last).mono (List.prefix_append early []).isInfix⟩

/-! ## The way up -/

/-- What happened along the way of a created node that came up. -/
structure CameUp (service : Service σ S) (options : TemplateOptions) (created node : Node)
    (path : List (Moment σ)) : Prop where
  running : node.state = .running
  wellFormed : node.checkInvariants = .ok ()
  shown : (service.provider.get created.id).Occurs path (.ok node)
  opened : ∀ wait, options.portWait = some wait →
    ∃ address, node.primaryAddress = some address ∧
      (service.executor.probe { address := address, port := wait.port }).Occurs path true
  scripted : ∀ script, options.script = some script →
    ∃ response, (service.executor.runScript node script
      (service.scriptOptions options)).Occurs path (.ok response)

/-- A node is let through when the port that its template names has been found open. -/
theorem opened_of_requirePort
    {service : Service σ S}
    {options : TemplateOptions}
    {node found : Node}
    {path : List (Moment σ)}
    (followed : (service.requirePort options node).along path = some (.ok found)) :
    found = node ∧ ∀ wait, options.portWait = some wait →
      ∃ address, node.primaryAddress = some address ∧
        (service.executor.probe { address := address, port := wait.port }).Occurs path true := by
  simp only [requirePort] at followed
  split at followed
  · rename_i unasked
    rcases (Activity.along_done_iff _ _ _).1 followed with ⟨-, same⟩
    refine ⟨Except.ok.inj same, ?_⟩
    intro wait asked
    rw [unasked] at asked
    cases asked
  · rename_i wanted asked
    rcases (Activity.along_bind_iff _ _ _ _).1 followed with
      ⟨early, late, isOpen, rfl, waited, decided⟩
    split at decided
    · rename_i found
      rcases (Activity.along_done_iff _ _ _).1 decided with ⟨rfl, same⟩
      refine ⟨Except.ok.inj same, ?_⟩
      intro wait asked'
      rw [asked] at asked'
      cases asked'
      rw [found, awaitPort] at waited
      split at waited
      · simp at waited
      · rename_i address known
        refine ⟨address, known, ?_⟩
        exact (PollPolicy.occurs_of_waitUntil waited).mono (List.prefix_append early []).isInfix
    · rcases (Activity.along_done_iff _ _ _).1 decided with ⟨-, different⟩
      cases different

/-- A node is let through when the script that its template has was answered. -/
theorem scripted_of_requireScript
    {service : Service σ S}
    {options : TemplateOptions}
    {node found : Node}
    {path : List (Moment σ)}
    (followed : (service.requireScript options node).along path = some (.ok found)) :
    found = node ∧ ∀ script, options.script = some script →
      ∃ response, (service.executor.runScript node script
        (service.scriptOptions options)).Occurs path (.ok response) := by
  simp only [requireScript] at followed
  split at followed
  · rename_i unasked
    rcases (Activity.along_done_iff _ _ _).1 followed with ⟨-, same⟩
    refine ⟨Except.ok.inj same, ?_⟩
    intro script asked
    rw [unasked] at asked
    cases asked
  · rename_i wanted asked
    rcases (Activity.along_bind_iff _ _ _ _).1 followed with
      ⟨early, late, result, rfl, ran, decided⟩
    split at decided
    · rename_i response
      rcases (Activity.along_done_iff _ _ _).1 decided with ⟨rfl, same⟩
      refine ⟨Except.ok.inj same, ?_⟩
      intro script asked'
      rw [asked] at asked'
      cases asked'
      exact ⟨response, (Activity.Occurs.of_along ran).mono
        (List.prefix_append early []).isInfix⟩
    · rcases (Activity.along_done_iff _ _ _).1 decided with ⟨-, different⟩
      cases different

theorem runningNode_eq_ok
    {settings : ServiceSettings}
    {settling : Settling}
    {node : Node}
    (running : runningNode settings settling = .ok node) :
    settling = .running node := by
  cases settling <;> cases running
  rfl

/-- A node that came up went through every step that its template asks for. -/
theorem cameUp_of_bringUp
    {service : Service σ S}
    {options : TemplateOptions}
    {created node : Node}
    {path : List (Moment σ)}
    (followed : (service.bringUp options created).along path = some (.ok node)) :
    CameUp service options created node path := by
  rcases (Activity.along_bind_iff _ _ _ _).1 followed with
    ⟨looking, onwards, settling, rfl, settled, proceeded⟩
  split at proceeded
  · simp at proceeded
  · rename_i running
    rcases (Activity.along_bind_iff _ _ _ _).1 proceeded with
      ⟨waiting, working, ported, rfl, waited, worked⟩
    split at worked
    · simp at worked
    · rw [runningNode_eq_ok running] at settled
      rcases running_of_awaitSettled settled with ⟨runs, wellFormed, shown⟩
      rcases opened_of_requirePort waited with ⟨rfl, opened⟩
      rcases scripted_of_requireScript worked with ⟨rfl, scripted⟩
      have waitingInside : waiting <:+: looking ++ (waiting ++ working) :=
        ⟨looking, working, List.append_assoc ..⟩
      have workingInside : working <:+: looking ++ (waiting ++ working) :=
        ⟨looking ++ waiting, [], by simp⟩
      constructor
      · exact runs
      · exact wellFormed
      · exact shown.mono (List.prefix_append looking _).isInfix
      · intro wait asked
        rcases opened wait asked with ⟨address, known, occurs⟩
        exact ⟨address, known, occurs.mono waitingInside⟩
      · intro script asked
        rcases scripted script asked with ⟨response, occurs⟩
        exact ⟨response, occurs.mono workingInside⟩

/-! ## Failures -/

theorem ne_create_of_runningNode
    {settings : ServiceSettings}
    {settling : Settling}
    {failure : NodeFailure}
    (failed : runningNode settings settling = .error failure)
    (source : ProviderFailure) :
    failure ≠ .create source := by
  cases settling <;> cases failed <;> simp

/-- The only thing that can go wrong with a port is that it stays closed. -/
theorem portClosed_of_requirePort
    {service : Service σ S}
    {options : TemplateOptions}
    {node : Node}
    {path : List (Moment σ)}
    {failure : NodeFailure}
    (followed : (service.requirePort options node).along path = some (.error failure)) :
    ∃ port, failure = .portClosed node.id port := by
  simp only [requirePort] at followed
  split at followed
  · simp at followed
  · rename_i wait asked
    rcases (Activity.along_bind_iff _ _ _ _).1 followed with ⟨_, _, isOpen, _, _, decided⟩
    split at decided
    · simp at decided
    · rcases (Activity.along_done_iff _ _ _).1 decided with ⟨-, same⟩
      exact ⟨wait.port, Except.error.inj same⟩

/-- The only thing that can go wrong with a script is its run. -/
theorem script_of_requireScript
    {service : Service σ S}
    {options : TemplateOptions}
    {node : Node}
    {path : List (Moment σ)}
    {failure : NodeFailure}
    (followed : (service.requireScript options node).along path = some (.error failure)) :
    ∃ source, failure = .script source := by
  simp only [requireScript] at followed
  split at followed
  · simp at followed
  · rcases (Activity.along_bind_iff _ _ _ _).1 followed with ⟨_, _, result, _, ran, decided⟩
    split at decided
    · simp at decided
    · rename_i source
      rcases (Activity.along_done_iff _ _ _).1 decided with ⟨-, same⟩
      exact ⟨source, Except.error.inj same⟩

/-- What goes wrong with a created node is never its creation. -/
theorem ne_create_of_bringUp
    {service : Service σ S}
    {options : TemplateOptions}
    {created : Node}
    {path : List (Moment σ)}
    {failure : NodeFailure}
    (followed : (service.bringUp options created).along path = some (.error failure))
    (source : ProviderFailure) :
    failure ≠ .create source := by
  rcases (Activity.along_bind_iff _ _ _ _).1 followed with ⟨_, _, settling, _, _, proceeded⟩
  split at proceeded
  · rename_i reason failed
    rcases (Activity.along_done_iff _ _ _).1 proceeded with ⟨-, same⟩
    cases same
    exact ne_create_of_runningNode failed source
  · rcases (Activity.along_bind_iff _ _ _ _).1 proceeded with ⟨_, _, ported, _, waited, worked⟩
    split at worked
    · rcases (Activity.along_done_iff _ _ _).1 worked with ⟨-, same⟩
      cases same
      rcases portClosed_of_requirePort waited with ⟨port, rfl⟩
      exact NodeFailure.noConfusion
    · rcases script_of_requireScript worked with ⟨reason, rfl⟩
      exact NodeFailure.noConfusion

end Service

end Fleet
