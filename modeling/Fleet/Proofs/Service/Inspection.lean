import Fleet.Proofs.Node.Lifecycle
import Fleet.Proofs.Service.Destruction
import Fleet.Service.Inspect

/-!
# What the check of a fresh record accepts

A fresh record is compared with one that may be old, so that any number of moves may lie between the
two. The check looks at a single move. It therefore refuses one thing that the lifecycle makes
possible: a node that had failed and is alive again.
-/

namespace Fleet.Service

open NodeState (History Revives)

variable {σ S : Type}

/-- A fresh record that differs in its state alone is refused for that state or not at all. -/
theorem checkFresh_of_fits
    {known fresh : Node}
    (id : fresh.id = known.id)
    (tag : fresh.tag = known.tag)
    (image : fresh.image = known.image)
    (location : fresh.location = known.location) :
    checkFresh known fresh =
      if known.state.mayBecome fresh.state then .ok fresh
      else .error (.inconsistent known.id "state" s!"a state reachable from {known.state.name}"
        fresh.state.name) := by
  simp [checkFresh, id, tag, image, location]

/-- A look at a known node is the provider's, checked. -/
theorem run_inspect_of_get
    {service : Service σ S}
    {known fresh : Node}
    {now later : Nat}
    {state reached : σ}
    (shown : (service.provider.get known.id).run now state = some (.ok fresh, later, reached)) :
    (service.inspect known).run now state = some (checkFresh known fresh, later, reached) := by
  rw [inspect, calling, Activity.bind_eq_bind, Activity.bind_eq_bind, Activity.run_bind,
    Activity.run_bind, shown]
  rfl

/-- A record that differs from the known one in its state alone is accepted after every history that
leads to it, except when the node had failed and is pending or running again. Such a history goes
through a state that cannot be classified, and the record is refused as unreachable. -/
theorem inspect_accepts_histories_but_revivals
    {service : Service σ S}
    {known fresh : Node}
    {now later : Nat}
    {state reached : σ}
    (shown : (service.provider.get known.id).run now state = some (.ok fresh, later, reached))
    (id : fresh.id = known.id)
    (tag : fresh.tag = known.tag)
    (image : fresh.image = known.image)
    (location : fresh.location = known.location) :
    (∀ states, History known.state fresh.state states → ¬ Revives known.state fresh.state →
      (service.inspect known).run now state = some (.ok fresh, later, reached)) ∧
    (∀ states, History known.state fresh.state states → Revives known.state fresh.state →
      NodeState.unknown ∈ states ∧
      (service.inspect known).run now state =
        some (.error (.inconsistent known.id "state" "a state reachable from ERROR"
          fresh.state.name), later, reached)) ∧
    ((∀ states, ¬ History known.state fresh.state states) →
      (service.inspect known).run now state =
        some (.error (.inconsistent known.id "state"
          s!"a state reachable from {known.state.name}" fresh.state.name), later, reached)) := by
  have checked := run_inspect_of_get shown
  rw [checkFresh_of_fits id tag image location] at checked
  refine ⟨?_, ?_, ?_⟩
  · intro states history mortal
    rw [checked, if_pos (NodeState.mayBecome_iff_history.2 ⟨⟨states, history⟩, mortal⟩)]
  · intro states history revives
    have forbidden : ¬ known.state.mayBecome fresh.state = true := fun permitted =>
      (NodeState.mayBecome_iff_history.1 permitted).2 revives
    refine ⟨history.unknown_mem revives, ?_⟩
    rw [checked, if_neg forbidden, revives.1]
    rfl
  · intro unreachable
    have forbidden : ¬ known.state.mayBecome fresh.state = true := by
      intro permitted
      rcases (NodeState.mayBecome_iff_history.1 permitted).1 with ⟨states, history⟩
      exact unreachable states history
    rw [checked, if_neg forbidden]

/-- A provider that shows a node running. -/
def revivedProvider : Provider Unit where
  name := "revived"
  create _ _ := .done (.error unknownCall)
  list _ := .done (.error unknownCall)
  get id := .done (.ok (reachableNode id .running))
  reboot _ := .done (.error unknownCall)
  destroy _ := .done (.error unknownCall)
  images := .done (.error unknownCall)
  sizes := .done (.error unknownCall)
  locations := .done (.error unknownCall)

/-- The record of a failed node is refused once the node runs again, although the lifecycle leads
there. -/
theorem revived_node_is_refused :
    History .error .running [.error, .unknown, .running] ∧
    ((plainService revivedProvider).inspect (reachableNode "first" .error)).run 0 () =
      some (.error (.inconsistent "first" "state" "a state reachable from ERROR" "RUNNING"), 0,
        ()) := by
  have revives : Revives .error .running := ⟨rfl, Or.inr rfl⟩
  have history := History.of_revives revives
  have refused := (@inspect_accepts_histories_but_revivals _ _ (plainService revivedProvider)
    (reachableNode "first" .error) (reachableNode "first" .running) 0 0 () () rfl rfl rfl rfl
    rfl).2.1 _ history revives
  exact ⟨history, refused.2⟩

end Fleet.Service
