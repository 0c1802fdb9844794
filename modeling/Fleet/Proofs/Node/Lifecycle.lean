import Fleet.Node.State

/-!
# Where the lifecycle leads

The table of permitted moves compares two states that are seen one after the other. Between two
looks at a node there may have been any number of moves, and the table is nearly closed under them:
what a node can become in the end it may become at once, except that a failed node comes back to
life only through a state that cannot be classified.
-/

namespace Fleet.NodeState

/-- The states that a node goes through from a first one to a last one, by permitted moves. -/
inductive History : NodeState → NodeState → List NodeState → Prop where
  | stays (state : NodeState) : History state state [state]
  | moves {first next last : NodeState} {rest : List NodeState}
      (permitted : first.mayBecome next = true) (onwards : History next last rest) :
      History first last (first :: rest)

/-- A failed node is seen alive again. -/
def Revives (first last : NodeState) : Prop :=
  first = error ∧ (last = pending ∨ last = running)

instance (first last : NodeState) : Decidable (Revives first last) :=
  inferInstanceAs (Decidable (_ ∧ _))

variable {first next last : NodeState} {states : List NodeState}

/-- A move before a permitted one or a revival makes a permitted one or a revival. -/
theorem mayBecome_or_revives_of_move
    (permitted : first.mayBecome next = true)
    (onwards : next.mayBecome last = true ∨ Revives next last) :
    first.mayBecome last = true ∨ Revives first last := by
  revert permitted onwards
  cases first <;> cases next <;> cases last <;> decide

namespace History

/-- What a node becomes in the end it may become at once, unless it has failed and revived. -/
theorem mayBecome_or_revives (history : History first last states) :
    first.mayBecome last = true ∨ Revives first last := by
  induction history with
  | stays state => exact Or.inl (mayBecome_self state)
  | moves permitted _ inductionHypothesis =>
    exact mayBecome_or_revives_of_move permitted inductionHypothesis

/-- Nothing comes after the final state. -/
theorem last_of_terminated
    (history : History first last states)
    (ended : first = terminated) :
    last = terminated := by
  induction history with
  | stays state => exact ended
  | moves permitted _ inductionHypothesis =>
    subst ended
    exact inductionHypothesis ((mayBecome_terminated_iff _).1 permitted)

/-- A failed node revives only through an unclassified state. -/
theorem unknown_mem
    (history : History first last states)
    (revives : Revives first last) :
    unknown ∈ states := by
  induction history with
  | stays state => rcases revives with ⟨rfl, dead | dead⟩ <;> cases dead
  | @moves first next last rest permitted onwards inductionHypothesis =>
    rcases revives with ⟨rfl, alive⟩
    cases next with
    | pending => cases permitted
    | running => cases permitted
    | terminated =>
      rw [onwards.last_of_terminated rfl] at alive
      rcases alive with dead | dead <;> cases dead
    | error => exact List.mem_cons_of_mem _ (inductionHypothesis ⟨rfl, alive⟩)
    | unknown =>
      cases onwards with
      | stays => simp
      | moves => simp

/-- The shortest way back to life. -/
theorem of_revives (revives : Revives first last) : History first last [error, unknown, last] := by
  rcases revives with ⟨rfl, rfl | rfl⟩
  · exact .moves rfl (.moves rfl (.stays pending))
  · exact .moves rfl (.moves rfl (.stays running))

end History

/-- The table permits what the lifecycle makes possible, revivals excepted. -/
theorem mayBecome_iff_history :
    first.mayBecome last = true ↔
      (∃ states, History first last states) ∧ ¬ Revives first last := by
  constructor
  · intro permitted
    refine ⟨⟨[first, last], .moves permitted (.stays last)⟩, ?_⟩
    rintro ⟨rfl, rfl | rfl⟩ <;> cases permitted
  · rintro ⟨⟨states, history⟩, mortal⟩
    exact history.mayBecome_or_revives.resolve_right mortal

end Fleet.NodeState
