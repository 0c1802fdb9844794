import Fleet.Proofs.Activity.Focus
import Fleet.Scaleway.Recorded

/-!
# Forgetting the calls

An interface that keeps a record answers as the one under it does, and so a backend that keeps one
lists, looks up, reboots and destroys as the backend itself does: without the record, each operation
has the same result at the same instant, and leaves the same state.
-/

namespace Fleet.Scaleway

open Activity (Shadows)

variable {σ : Type}

/-- The call is on record when it is made. -/
theorem run_making
    {α : Type}
    (call : ApiCall)
    (activity : Activity σ α)
    (now : Nat)
    (state : σ)
    (record : ApiRecord) :
    (call.making activity).run now (state, record) =
      (activity.run now state).map fun (result, later, reached) =>
        (result, later, reached, record ++ [call]) :=
  Activity.run_focus_first activity now state (record ++ [call])

theorem shadows_making
    {α : Type}
    (call : ApiCall)
    (activity : Activity σ α) :
    Shadows (call.making activity) activity id := by
  intro now state record
  rw [run_making, Option.map_map]
  exact Option.map_id'

/-- Reading is the same without the record. -/
theorem shadows_pagesFrom
    (api : Api σ)
    (label : Option String)
    (remaining page : Nat) :
    Shadows (Backend.pagesFrom api.recording label remaining page)
      (Backend.pagesFrom api label remaining page) id := by
  induction remaining generalizing page with
  | zero => exact fun _ _ _ => rfl
  | succ remaining inductionHypothesis =>
    refine (shadows_making (.servers label page) (api.servers label page)).bind fun answer => ?_
    cases answer with
    | error error => exact Shadows.done rfl
    | ok listed =>
      show Shadows (if _ then _ else _) (if _ then _ else _) id
      split
      · exact Shadows.done rfl
      · refine (inductionHypothesis (page + 1)).bind fun others => ?_
        cases others <;> exact Shadows.done rfl

/-- A call fails as a provider's call without the record as well. -/
theorem shadows_failing
    {α : Type}
    {recorded : Activity (σ × ApiRecord) (Except ScalewayError α)}
    {plain : Activity σ (Except ScalewayError α)}
    (shadows : Shadows recorded plain id) :
    Shadows (Backend.failing recorded) (Backend.failing plain) id :=
  shadows.bind fun _ => Shadows.done rfl

section Provider

variable (backend : Backend σ)

/-- Listing is the same without the record. -/
theorem shadows_list (tag : Option String) :
    Shadows (backend.recording.provider.list tag) (backend.provider.list tag) id := by
  refine shadows_failing (Shadows.bind
    (shadows_pagesFrom backend.api (tag.map batchLabel) Backend.lastPage 1) fun answer => ?_)
  cases answer with
  | error error => exact Shadows.done rfl
  | ok servers => exact fun _ _ _ => rfl

end Provider

section Nodes

variable (backend : Backend σ) (node : NodeId)

/-- Looking a node up is the same without the record. -/
theorem shadows_get :
    Shadows (backend.recording.get node) (backend.get node) id := by
  refine (shadows_making (.server node) (backend.api.server node)).bind fun answer => ?_
  cases answer with
  | error error => exact Shadows.done rfl
  | ok server =>
    have recalls : Shadows (backend.recording.loginFor server.id) (backend.loginFor server.id) id :=
      fun _ _ _ => rfl
    refine recalls.bind fun login => ?_
    dsimp only [id]
    cases server.toNode login <;> exact Shadows.done rfl

/-- Asking for a reboot is the same without the record. -/
theorem shadows_reboot :
    Shadows (backend.recording.reboot node) (backend.reboot node) id :=
  shadows_making (.act node .reboot) (backend.api.act node .reboot)

theorem shadows_remove
    (server : Server) :
    Shadows (backend.recording.remove node server) (backend.remove node server) id := by
  simp only [Backend.remove]
  split
  · exact shadows_making (.act node .terminate) (backend.api.act node .terminate)
  · exact shadows_making (.deleteServer node) (backend.api.deleteServer node)

/-- Destroying a node is the same without the record. -/
theorem shadows_destroy :
    Shadows (backend.recording.destroy node) (backend.destroy node) id := by
  refine (shadows_making (.server node) (backend.api.server node)).bind fun answer => ?_
  cases answer with
  | error error => exact Shadows.done rfl
  | ok server =>
    show Shadows (if _ then _ else _) (if _ then _ else _) id
    split
    · exact Shadows.done rfl
    · refine (shadows_remove backend node server).bind fun answer => ?_
      cases answer with
      | error error => exact Shadows.done rfl
      | ok _ =>
        have forgets : Shadows (backend.recording.remember node none) (backend.remember node none)
            id := fun _ _ _ => rfl
        exact forgets.bind fun _ => Shadows.done rfl

end Nodes

end Fleet.Scaleway
