import Fleet.Proofs.Service.BringUp
import Fleet.Proofs.Service.Recorded

/-!
# Failed looks at a node

A wait for a node is over with the first rejected look, so the record of a wait holds at most one,
as its last entry, and the wait fails with just that look. What is reported of a created node
therefore tells of a rejected look exactly when there was one.
-/

namespace Fleet.Service

variable {σ S : Type}

/-- What a wait remembers of its failed looks: the last failure is among them, and no other one can
have been rejected. -/
structure LooksKept (id : NodeId) (ended : Bool) (memory : Sighting × FailedLooks) : Prop where
  lawful : ended = false → memory.1.illegal = none
  rejected : ∀ look ∈ memory.2, look.2.isAuthorization = true →
    look.1 = id ∧ ended = true ∧ memory.1.illegal = none ∧
      memory.1.last = some (.error look.2)
  last : ∀ failure, memory.1.last = some (.error failure) → (id, failure) ∈ memory.2

/-- The next look is remembered as it should be. A wait that goes on has met no rejection, because a
rejected look ends it. -/
theorem LooksKept.look
    {id : NodeId}
    {memory : Sighting × FailedLooks}
    (kept : LooksKept id false memory)
    (shown : Except ProviderFailure Node) :
    LooksKept id (memory.1.note shown).1
      ((memory.1.note shown).2, memory.2 ++ (Results.failures [shown]).map (id, ·)) := by
  have lawful := kept.lawful rfl
  have accepted : ∀ look ∈ memory.2, ¬ look.2.isAuthorization = true := by
    intro look member rejected
    cases (kept.rejected look member rejected).2.1
  cases shown with
  | error failure =>
    constructor
    · intro _
      exact lawful
    · intro look member rejected
      rcases List.mem_append.1 member with earlier | latest
      · exact absurd rejected (accepted look earlier)
      · have same : look = (id, failure) := by simpa using latest
        subst same
        refine ⟨rfl, ?_, lawful, rfl⟩
        have kind : failure.kind = .authorization := by
          simpa [ProviderFailure.isAuthorization] using rejected
        simp [Sighting.note, Sighting.isFinal, kind]
    · intro other last
      have same : failure = other := by simpa using last
      simp [same]
  | ok node =>
    constructor
    · intro goesOn
      by_cases permitted : memory.1.previous.mayBecome node.state
      · simpa [Sighting.note, permitted] using lawful
      · simp [Sighting.note, permitted] at goesOn
    · intro look member rejected
      exact absurd rejected (accepted look (by simpa using member))
    · intro other last
      simp at last

/-- A wait ends with what it remembers of its looks. -/
theorem kept_of_recordedWait
    {service : Service σ S}
    {id : NodeId}
    {known : NodeState}
    {path : List (Moment σ)}
    {settling : Settling}
    {failures : FailedLooks}
    (followed : (service.recordedWait id known).along path = some (settling, failures)) :
    ∃ ended sighting, LooksKept id ended (sighting, failures) ∧
      settling = sighting.outcome id ended := by
  rcases (Activity.along_bind_iff _ _ _ _).1 followed with
    ⟨early, late, ⟨ended, sighting, looks⟩, rfl, waited, concluded⟩
  rcases (Activity.along_done_iff _ _ _).1 concluded with ⟨rfl, same⟩
  cases same
  refine ⟨ended, sighting, ?_, rfl⟩
  refine PollPolicy.follow_preserves (LooksKept id) ?_ ⟨fun _ => rfl, by simp, by simp⟩ waited
  rintro memory answer kept ⟨stretch, -, looked⟩
  rcases (Activity.along_bind_iff _ _ _ _).1 looked with ⟨_, _, shown, _, _, noted⟩
  rcases (Activity.along_done_iff _ _ _).1 noted with ⟨-, rfl⟩
  exact kept.look shown

/-- A rejected look is the outcome of the wait. -/
theorem failed_of_rejected_look
    {service : Service σ S}
    {id : NodeId}
    {known : NodeState}
    {path : List (Moment σ)}
    {settling : Settling}
    {failures : FailedLooks}
    (followed : (service.recordedWait id known).along path = some (settling, failures))
    {other : NodeId}
    {failure : ProviderFailure}
    (member : (other, failure) ∈ failures)
    (rejected : failure.isAuthorization = true) :
    other = id ∧ settling = .failed id failure := by
  rcases kept_of_recordedWait followed with ⟨ended, sighting, kept, rfl⟩
  rcases kept.rejected (other, failure) member rejected with ⟨same, -, lawful, last⟩
  refine ⟨same, ?_⟩
  have lawful : sighting.illegal = none := lawful
  have last : sighting.last = some (.error failure) := last
  simp only [Sighting.outcome, lawful, last]

/-- A wait fails with the failure of its last look. -/
theorem outcome_eq_failed
    {sighting : Sighting}
    {id other : NodeId}
    {ended : Bool}
    {failure : ProviderFailure}
    (failed : sighting.outcome id ended = .failed other failure) :
    sighting.last = some (.error failure) ∧ other = id := by
  simp only [Sighting.outcome] at failed
  split at failed
  · cases failed
  · split at failed
    · cases failed
    · rename_i last
      cases failed
      exact ⟨last, rfl⟩
    · split at failed
      · split at failed
        · split at failed <;> cases failed
        · cases failed
      · cases failed

/-- A wait that ends with a failure has met it in a look. -/
theorem look_of_failed
    {service : Service σ S}
    {id other : NodeId}
    {known : NodeState}
    {path : List (Moment σ)}
    {failure : ProviderFailure}
    {failures : FailedLooks}
    (followed : (service.recordedWait id known).along path =
      some (.failed other failure, failures)) :
    (other, failure) ∈ failures := by
  rcases kept_of_recordedWait followed with ⟨ended, sighting, kept, failed⟩
  rcases outcome_eq_failed failed.symm with ⟨last, rfl⟩
  exact kept.last failure last

/-- A node is waited for, and then its bringing up is completed. -/
theorem along_recordedBringUp
    {service : Service σ S}
    {options : TemplateOptions}
    {created : Node}
    {path : List (Moment σ)}
    {outcome : Except NodeFailure Node}
    {failures : FailedLooks}
    (followed : (service.recordedBringUp options created).along path = some (outcome, failures)) :
    ∃ looking working settling,
      (service.recordedWait created.id created.state).along looking = some (settling, failures) ∧
      (service.completeBringUp options settling).along working = some outcome := by
  rcases (Activity.along_bind_iff _ _ _ _).1 followed with
    ⟨looking, onwards, ⟨settling, looks⟩, rfl, waited, proceeded⟩
  rcases (Activity.along_bind_iff _ _ _ _).1 proceeded with
    ⟨working, ending, result, rfl, worked, ended⟩
  rcases (Activity.along_done_iff _ _ _).1 ended with ⟨rfl, same⟩
  cases same
  exact ⟨looking, working, settling, waited, worked⟩

/-- A rejected look is all that is reported of a created node. -/
theorem poll_of_rejected_look
    {service : Service σ S}
    {options : TemplateOptions}
    {created : Node}
    {path : List (Moment σ)}
    {outcome : Except NodeFailure Node}
    {failures : FailedLooks}
    (followed : (service.recordedBringUp options created).along path = some (outcome, failures))
    {id : NodeId}
    {failure : ProviderFailure}
    (member : (id, failure) ∈ failures)
    (rejected : failure.isAuthorization = true) :
    outcome = .error (.poll id failure) := by
  rcases along_recordedBringUp followed with ⟨looking, working, settling, waited, worked⟩
  rcases failed_of_rejected_look waited member rejected with ⟨rfl, rfl⟩
  rcases (Activity.along_done_iff _ _ _).1 worked with ⟨-, same⟩
  exact same

/-- A failed look that is reported of a created node was made. -/
theorem look_of_poll
    {service : Service σ S}
    {options : TemplateOptions}
    {created : Node}
    {path : List (Moment σ)}
    {id : NodeId}
    {failure : ProviderFailure}
    {failures : FailedLooks}
    (followed : (service.recordedBringUp options created).along path =
      some (.error (.poll id failure), failures)) :
    (id, failure) ∈ failures := by
  rcases along_recordedBringUp followed with ⟨looking, working, settling, waited, worked⟩
  rw [completeBringUp] at worked
  split at worked
  · rename_i reason failed
    rcases (Activity.along_done_iff _ _ _).1 worked with ⟨-, same⟩
    cases same
    cases settling <;> cases failed
    exact look_of_failed waited
  · rcases (Activity.along_bind_iff _ _ _ _).1 worked with ⟨_, _, ported, _, opened, scripted⟩
    split at scripted
    · rcases (Activity.along_done_iff _ _ _).1 scripted with ⟨-, same⟩
      cases same
      rcases portClosed_of_requirePort opened with ⟨port, same⟩
      cases same
    · rcases script_of_requireScript scripted with ⟨reason, same⟩
      cases same

end Fleet.Service
