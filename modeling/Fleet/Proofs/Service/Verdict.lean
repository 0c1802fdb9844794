import Fleet.Proofs.Service.Recorded

/-!
# The verdict on a wait

The answers to the looks of a wait settle what it comes to; when they were given, and what happened
in between, does not matter. A look that passes leaves the wait open. A look that concludes ends it
at once, and says with what. A wait that is still open when its time is over comes to what its last
look left.
-/

namespace Fleet

namespace Look

/-- The state in which a node was seen last, after one more look; a failed look shows none. -/
def seenAfter (seen : NodeState) : Look → NodeState
  | .error _ => seen
  | .ok node => node.state

/-- The state in which some looks showed a node last. -/
def lastSeen (known : NodeState) (looks : List Look) : NodeState :=
  looks.foldl seenAfter known

@[simp]
theorem lastSeen_concat
    (known : NodeState)
    (looks : List Look)
    (look : Look) :
    lastSeen known (looks ++ [look]) = seenAfter (lastSeen known looks) look := by
  simp [lastSeen]

/-- After a look a wait goes on. -/
inductive Passes (seen : NodeState) : Look → Prop where
  | failed {failure : ProviderFailure} (found : failure.kind ≠ .notFound)
      (accepted : failure.kind ≠ .authorization) : Passes seen (.error failure)
  | unsettled {node : Node} (permitted : seen.mayBecome node.state = true)
      (unsettled : node.state.isSettled = false) : Passes seen (.ok node)

/-- With a look a wait is over, and comes to something. -/
inductive Concludes (id : NodeId) (seen : NodeState) : Look → Settling → Prop where
  | failed {failure : ProviderFailure}
      (final : failure.kind = .notFound ∨ failure.kind = .authorization) :
      Concludes id seen (.error failure) (.failed id failure)
  | forbidden {node : Node} (forbidden : seen.mayBecome node.state = false) :
      Concludes id seen (.ok node) (.invalid id (.illegalTransition node.id seen node.state))
  | running {node : Node} (permitted : seen.mayBecome node.state = true)
      (runs : node.state = .running) (wellFormed : node.checkInvariants = .ok ()) :
      Concludes id seen (.ok node) (.running node)
  | malformed {node : Node} {error : NodeError} (permitted : seen.mayBecome node.state = true)
      (runs : node.state = .running) (broken : node.checkInvariants = .error error) :
      Concludes id seen (.ok node) (.invalid node.id error)
  | stopped {node : Node} (permitted : seen.mayBecome node.state = true)
      (settled : node.state.isSettled = true) (stands : node.state ≠ .running) :
      Concludes id seen (.ok node) (.stopped node.id node.state)

/-- What a wait comes to whose time is over after a look. -/
def remainder (id : NodeId) : Look → Settling
  | .error failure => .failed id failure
  | .ok node => .timedOut node.id node.state

/-- A look either passes or concludes. -/
theorem passes_or_concludes
    (id : NodeId)
    (seen : NodeState)
    (look : Look) :
    Passes seen look ∨ ∃ settling, Concludes id seen look settling := by
  cases look with
  | error failure =>
    by_cases final : failure.kind = .notFound ∨ failure.kind = .authorization
    · exact Or.inr ⟨_, .failed final⟩
    · rw [not_or] at final
      exact Or.inl (.failed final.1 final.2)
  | ok node =>
    cases permitted : seen.mayBecome node.state with
    | false => exact Or.inr ⟨_, .forbidden permitted⟩
    | true =>
      cases settled : node.state.isSettled with
      | false => exact Or.inl (.unsettled permitted settled)
      | true =>
        by_cases runs : node.state = .running
        · cases checked : node.checkInvariants with
          | ok done => exact Or.inr ⟨_, .running permitted runs checked⟩
          | error error => exact Or.inr ⟨_, .malformed permitted runs checked⟩
        · exact Or.inr ⟨_, .stopped permitted settled runs⟩

/-- Looks that all pass. -/
inductive AllPass (known : NodeState) : List Look → Prop where
  | none : AllPass known []
  | more {looks : List Look} {look : Look} (passed : AllPass known looks)
      (passes : Passes (lastSeen known looks) look) : AllPass known (looks ++ [look])

/-- Looks pass when the earlier ones do, and the last one passes after them. -/
theorem allPass_concat_iff
    {known : NodeState}
    {looks : List Look}
    {look : Look} :
    AllPass known (looks ++ [look]) ↔
      AllPass known looks ∧ Passes (lastSeen known looks) look := by
  constructor
  · intro all
    generalize whole : looks ++ [look] = extended at all
    cases all with
    | none => simp at whole
    | more passed passes =>
      rcases List.append_inj' whole rfl with ⟨rfl, same⟩
      cases same
      exact ⟨passed, passes⟩
  · intro both
    exact .more both.1 both.2

end Look

namespace Sighting

open Look

/-- What is remembered of looks that all passed. -/
def ofLooks (known : NodeState) (looks : List Look) : Sighting :=
  { previous := lastSeen known looks, last := looks.getLast? }

variable {id : NodeId} {known : NodeState} {looks : List Look} {look : Look} {settling : Settling}

theorem note_of_passes (passes : Passes (lastSeen known looks) look) :
    (ofLooks known looks).note look = (false, ofLooks known (looks ++ [look])) := by
  cases passes with
  | failed found accepted =>
    simp [note, isFinal, ofLooks, seenAfter, found, accepted]
  | unsettled permitted unsettled =>
    simp [note, ofLooks, seenAfter, permitted, unsettled]

/-- A look that concludes ends the wait with what it comes to. -/
theorem note_of_concludes (concludes : Concludes id (lastSeen known looks) look settling) :
    ∃ sighting, (ofLooks known looks).note look = (true, sighting) ∧
      sighting.outcome id true = settling := by
  refine ⟨((ofLooks known looks).note look).2, ?_⟩
  cases concludes with
  | failed final => rcases final with kind | kind <;> simp [note, isFinal, outcome, ofLooks, kind]
  | forbidden forbidden => simp [note, outcome, ofLooks, forbidden]
  | running permitted runs wellFormed =>
    rw [runs] at permitted
    simp [note, outcome, ofLooks, permitted, runs, wellFormed, NodeState.isSettled]
  | malformed permitted runs broken =>
    rw [runs] at permitted
    simp [note, outcome, ofLooks, permitted, runs, broken, NodeState.isSettled]
  | stopped permitted settled stands =>
    simp [note, outcome, ofLooks, permitted, settled, stands]

/-- A look that does not end a wait has passed, and one that ends it has concluded. -/
theorem note_cases
    (id : NodeId)
    (known : NodeState)
    (looks : List Look)
    (look : Look) :
    (Passes (lastSeen known looks) look ∧
      (ofLooks known looks).note look = (false, ofLooks known (looks ++ [look]))) ∨
    ∃ sighting, (ofLooks known looks).note look = (true, sighting) ∧
      Concludes id (lastSeen known looks) look (sighting.outcome id true) := by
  rcases passes_or_concludes id (lastSeen known looks) look with passes | ⟨settling, concludes⟩
  · exact Or.inl ⟨passes, note_of_passes passes⟩
  · rcases note_of_concludes concludes with ⟨sighting, ended, rfl⟩
    exact Or.inr ⟨sighting, ended, concludes⟩

@[simp]
theorem outcome_ofLooks_concat
    (id : NodeId)
    (known : NodeState)
    (looks : List Look)
    (look : Look) :
    (ofLooks known (looks ++ [look])).outcome id false = remainder id look := by
  cases look <;> simp [outcome, ofLooks, remainder]

end Sighting

open Look

/-- What a wait comes to, by its looks. -/
inductive Verdict (id : NodeId) (known : NodeState) : List Look → Settling → Prop where
  | concluded {before : List Look} {look : Look} {settling : Settling}
      (passed : AllPass known before)
      (concludes : Concludes id (lastSeen known before) look settling) :
      Verdict id known (before ++ [look]) settling
  | expired {before : List Look} {look : Look} (passed : AllPass known (before ++ [look])) :
      Verdict id known (before ++ [look]) (remainder id look)
  | blind : Verdict id known [] (.timedOut id .unknown)

namespace Service

variable {σ S : Type}

/-- What a wait remembers, open or over. -/
inductive Remembers (id : NodeId) (known : NodeState) :
    Bool → Sighting × List Look → Prop where
  | passed {looks : List Look} (passed : AllPass known looks) :
      Remembers id known false (.ofLooks known looks, looks)
  | finished {before : List Look} {look : Look} {sighting : Sighting}
      (passed : AllPass known before)
      (concludes : Concludes id (lastSeen known before) look (sighting.outcome id true)) :
      Remembers id known true (sighting, before ++ [look])

/-- The next look is remembered behind the others. -/
theorem Remembers.look
    {id : NodeId}
    {known : NodeState}
    {memory : Sighting × List Look}
    (remembers : Remembers id known false memory)
    (shown : Look) :
    Remembers id known (memory.1.note shown).1 ((memory.1.note shown).2, memory.2 ++ [shown]) := by
  cases remembers with
  | @passed looks passed =>
    rcases Sighting.note_cases id known looks shown with
      ⟨passes, noted⟩ | ⟨sighting, noted, concludes⟩
    · rw [noted]
      exact .passed (.more passed passes)
    · rw [noted]
      exact .finished passed concludes

/-- A wait ends with the verdict on its looks, whatever happens while it lasts. -/
theorem verdict_of_loggedWait
    {service : Service σ S}
    {id : NodeId}
    {known : NodeState}
    {path : List (Moment σ)}
    {settling : Settling}
    {looks : List Look}
    (followed : (service.loggedWait id known).along path = some (settling, looks)) :
    Verdict id known looks settling := by
  rcases (Activity.along_bind_iff _ _ _ _).1 followed with
    ⟨early, late, ⟨ended, sighting, shown⟩, rfl, waited, concluded⟩
  rcases (Activity.along_done_iff _ _ _).1 concluded with ⟨rfl, same⟩
  cases same
  have remembers : Remembers id known ended (sighting, looks) := by
    refine PollPolicy.follow_preserves (Remembers id known) ?_ (.passed .none) waited
    rintro memory answer remembers ⟨stretch, -, looked⟩
    rcases (Activity.along_bind_iff _ _ _ _).1 looked with ⟨_, _, shown, _, _, noted⟩
    rcases (Activity.along_done_iff _ _ _).1 noted with ⟨-, rfl⟩
    exact remembers.look shown
  cases remembers with
  | finished passed concludes => exact .concluded passed concludes
  | passed passed =>
    cases passed with
    | none => exact .blind
    | more passed passes =>
      rw [Sighting.outcome_ofLooks_concat]
      exact .expired (.more passed passes)

end Service

end Fleet
