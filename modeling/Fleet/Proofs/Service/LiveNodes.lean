import Fleet.Proofs.Activity.Group
import Fleet.Provider.Basic

/-!
# One call for each live node

A batch operation lists the nodes of a tag and makes one call for each of them that is live, all
side by side. Each live node has one result, that of its own call, in the order of the listing.
-/

namespace Fleet.Service

variable {σ : Type}

/-- The names of the live nodes of a listing. -/
def liveIds (listed : List Node) : List NodeId :=
  (listed.filter Node.isLive).map Node.id

theorem mem_liveIds_iff
    {listed : List Node}
    {id : NodeId} :
    id ∈ liveIds listed ↔ ∃ node ∈ listed, node.id = id ∧ node.state ≠ .terminated := by
  simp only [liveIds, List.mem_map, List.mem_filter, Node.isLive, NodeState.isTerminated,
    Bool.not_eq_true', beq_eq_false_iff_ne]
  constructor
  · rintro ⟨node, ⟨member, live⟩, same⟩
    exact ⟨node, member, same, live⟩
  · rintro ⟨node, member, same, live⟩
    exact ⟨node, ⟨member, live⟩, same⟩

/-- A call for each live node of a listing, side by side. -/
def callLive (operation : NodeId → Activity σ (Except ProviderFailure Unit))
    (listed : List Node) :
    Activity σ BatchResults :=
  Activity.gathered ((liveIds listed).map fun id => (id, ·) <$> operation id)

section Calls

variable {operation : NodeId → Activity σ (Except ProviderFailure Unit)} {listed : List Node}
  {now later : Nat} {state reached : σ} {results : BatchResults}
  (finished : (callLive operation listed).run now state = some (results, later, reached))

include finished

/-- Every live node has the result of its own call, whatever happens to the others. -/
theorem callLive_reaches :
    List.Forall₂ (fun id result => result.1 = id ∧ (operation id).Reaches
      ((callLive operation listed).moments now state) result.2) (liveIds listed) results := by
  have reached := Activity.allReach_of_run_gathered finished
  refine (List.forall₂_map_left_iff.1 reached).imp ?_
  rintro id result ⟨part, inside, followed⟩
  rcases (Activity.along_map_iff _ _ _ _).1 followed with ⟨own, along, rfl⟩
  exact ⟨rfl, part, inside, along⟩

theorem ids_of_callLive : results.map Prod.fst = liveIds listed := by
  have each := callLive_reaches finished
  have same : List.Forall₂ (fun id other => other = id) (liveIds listed) (results.map Prod.fst) :=
    List.forall₂_map_right_iff.2 (each.imp fun _ _ => And.left)
  have equal : List.Forall₂ Eq (liveIds listed) (results.map Prod.fst) :=
    same.imp fun _ _ => Eq.symm
  exact (List.forall₂_eq_eq_eq ▸ equal : liveIds listed = results.map Prod.fst).symm

end Calls

/-- The course of a batch operation: a listing, and then a call for every live node, each with its
own result. -/
def Called
    (provider : Provider σ)
    (operation : NodeId → Activity σ (Except ProviderFailure Unit))
    (tag : String)
    (now : Nat)
    (state : σ)
    (before : List Node)
    (results : BatchResults)
    (later : Nat)
    (reached : σ) :
    Prop :=
  ∃ middle listed,
    (provider.list (some tag)).run now state = some (.ok before, middle, listed) ∧
    (callLive operation before).run middle listed = some (results, later, reached) ∧
    List.Forall₂ (fun id result => result.1 = id ∧ (operation id).Reaches
      ((callLive operation before).moments middle listed) result.2) (liveIds before) results

end Fleet.Service
