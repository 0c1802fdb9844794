import Fleet.Proofs.Scaleway.Interventions
import Fleet.Proofs.Scaleway.Labels

/-!
# Servers without a batch

An account may hold servers that were made by somebody else. They carry no batch label, and so they
are no nodes. A look at such a server and its destruction find that out before they do anything: all
that is asked of the interface is to look the server up. A reboot does not look. It asks for the
reboot of whatever server has the name, be it a node or not.
-/

namespace Fleet.Scaleway

open Activity (Shadows)

variable {σ : Type}

/-- None of the server's labels names a batch. -/
def Server.Unlabelled (server : Server) : Prop :=
  ∀ tag, batchLabel tag ∉ server.labels

theorem Server.batch_eq_none_iff (server : Server) : server.batch = none ↔ server.Unlabelled := by
  rw [batch, batchOf, List.findSome?_eq_none_iff]
  constructor
  · intro unread tag carried
    have read := unread _ carried
    rw [textAfter_batchLabel] at read
    cases read
  · intro unlabelled label carried
    cases read : Text.textAfter batchLead label with
    | none => rfl
    | some tag =>
      rw [Text.textAfter_eq_some_iff.1 read] at carried
      exact absurd carried (unlabelled tag)

section Looks

variable {backend : Backend σ} {id : NodeId} {now later : Nat} {state reached : σ}
  {answer : Except ScalewayError Server}
  (looked : (backend.api.server id).run now state = some (answer, later, reached))

include looked

theorem run_recorded_look (record : ApiRecord) :
    (backend.recording.api.server id).run now (state, record) =
      some (answer, later, reached, record ++ [.server id]) := by
  show ((ApiCall.server id).making (backend.api.server id)).run now (state, record) = _
  rw [run_making, looked]
  rfl

variable (foreign : ∀ server, answer = .ok server → server.Unlabelled) (record : ApiRecord)

include foreign

/-- A look at a server without a batch asks for nothing else. -/
theorem run_get_of_unlabelled :
    (backend.recording.get id).run now (state, record) =
      some (answer.bind fun _ => .error (.notManaged id), later, reached,
        record ++ [.server id]) := by
  have read := run_recorded_look looked record
  rw [Backend.get, Activity.bind_eq_bind, Activity.run_bind_of_run read]
  cases answer with
  | error error => rfl
  | ok server =>
    have stranger : ∀ login, server.toNode login = none := by
      intro login
      rw [Server.toNode, server.batch_eq_none_iff.2 (foreign server rfl), Option.map_none]
    simp only [stranger]
    rfl

/-- A server without a batch is not destroyed. -/
theorem run_destroy_of_unlabelled :
    (backend.recording.destroy id).run now (state, record) =
      some (answer.bind fun server => .error (.notManaged server.id), later, reached,
        record ++ [.server id]) := by
  have read := run_recorded_look looked record
  rw [Backend.destroy, Activity.bind_eq_bind, Activity.run_bind_of_run read]
  cases answer with
  | error error => rfl
  | ok server =>
    have stranger : server.batch.isNone = true := by
      rw [server.batch_eq_none_iff.2 (foreign server rfl), Option.isNone_none]
    dsimp only
    rw [if_pos stranger]
    rfl

end Looks

/-- Whatever the account holds under a name, if it carries no batch label then a look at it and its
destruction are refused after one look-up, or end with the error of the look-up, and nothing is
asked of it. But a reboot makes no look-up: its one call is the power action itself, whatever labels
the server carries, and the answer to that call is its result. The calls are read from a record, and
without it all three operations do the same. -/
theorem unlabelled_servers_are_spared_except_from_reboots
    (backend : Backend σ)
    (id : NodeId)
    (now : Nat)
    (state : σ)
    (record : ApiRecord) :
    (∀ answer later reached,
      (backend.api.server id).run now state = some (answer, later, reached) →
      (∀ server, answer = .ok server → server.Unlabelled) →
      (backend.recording.get id).run now (state, record) =
        some (answer.bind fun _ => .error (.notManaged id), later, reached,
          record ++ [.server id]) ∧
      (backend.recording.destroy id).run now (state, record) =
        some (answer.bind fun server => .error (.notManaged server.id), later, reached,
          record ++ [.server id])) ∧
    (backend.recording.reboot id).run now (state, record) =
      (((backend.api.act id .reboot).run now state).map fun (answer, later, reached) =>
        (answer, later, reached, record ++ [.act id .reboot])) ∧
    Shadows (backend.recording.get id) (backend.get id) (fun answer => answer) ∧
    Shadows (backend.recording.destroy id) (backend.destroy id) (fun answer => answer) ∧
    Shadows (backend.recording.reboot id) (backend.reboot id) (fun answer => answer) := by
  refine ⟨?_, ?_, shadows_get backend id, shadows_destroy backend id, shadows_reboot backend id⟩
  · intro answer later reached looked foreign
    exact ⟨run_get_of_unlabelled looked foreign record,
      run_destroy_of_unlabelled looked foreign record⟩
  · exact run_making (.act id .reboot) (backend.api.act id .reboot) now state record

/-- Of the servers in the account, `e` has no batch: it is neither shown nor destroyed, and it is
rebooted. -/
theorem foreign_server_is_rebooted :
    (wholeBackend.recording.get "e").run 0 ((mixedServers, .empty), []) =
        some (.error (.notManaged "e"), 0, (mixedServers, .empty), [.server "e"]) ∧
      (wholeBackend.recording.destroy "e").run 0 ((mixedServers, .empty), []) =
        some (.error (.notManaged "e"), 0, (mixedServers, .empty), [.server "e"]) ∧
      (wholeBackend.recording.reboot "e").run 0 ((mixedServers, .empty), []) =
        some (.ok (), 0, (mixedServers, .empty), [.act "e" .reboot]) ∧
      (wholeBackend.reboot "e").run 0 (mixedServers, .empty) =
        some (.ok (), 0, (mixedServers, .empty)) := by
  obtain ⟨spared, rebooted, -, -, plain⟩ :=
    unlabelled_servers_are_spared_except_from_reboots wholeBackend "e" 0 (mixedServers, .empty) []
  have foreign : ∀ server, serverOf mixedServers "e" = some server → server.Unlabelled := by
    intro server found
    rw [← server.batch_eq_none_iff]
    cases found
    rfl
  obtain ⟨shown, destroyed⟩ := spared _ 0 (mixedServers, .empty) rfl fun server answered =>
    foreign server (by cases answered; rfl)
  refine ⟨shown, destroyed, rebooted, ?_⟩
  rw [← plain 0 (mixedServers, .empty) [], rebooted]
  rfl

end Fleet.Scaleway
