import Fleet.Proofs.Memory.Remembered
import Fleet.Proofs.Service.Inspection
import Fleet.Proofs.Service.MemoryBatch

/-!
# Old records of an account in memory

Whoever looks at a known node again has the fresh record checked against the known one. However old
the known record is and whatever happened since, a record of an account in memory passes the check.
-/

namespace Fleet.Service

open Memory (Account Answer Event Request defaultCatalog)

variable {σ S : Type}

section Inspection

variable {place : Part σ Account} {client : Memory.Client} {service : Service σ S}
  (drives : service.provider = Memory.provider place client)

include drives

/-- An inspection gives back a record with the same name, tag, image and location. -/
theorem run_inspect
    {whole : σ}
    (admitted : (place.view whole).admits client = true)
    {known : Node}
    (remembers : (place.view whole).Remembers known)
    (now : Nat) :
    ∃ fresh reached, (service.inspect known).run now whole = some (.ok fresh, now, reached) ∧
      fresh.id = known.id ∧ fresh.tag = known.tag ∧ fresh.image = known.image ∧
      fresh.location = known.location := by
  rcases remembers with ⟨node, found, recalls⟩
  have polled := recalls.succeeds (Memory.Succeeds.afterPoll node)
  have shown := Account.recalls_shown (place.view whole) (Memory.afterPoll node)
  have id := shown.id.symm.trans polled.id
  have tag := shown.tag.symm.trans polled.tag
  have image := shown.image.symm.trans polled.image
  have location := shown.location.symm.trans polled.location
  have moved : known.state.mayBecome
      ((place.view whole).shown (Memory.afterPoll node)).state = true := by
    rw [Account.state_shown]
    exact polled.state.mayBecome
  have looked : (service.provider.get known.id).run now whole =
      some (.ok ((place.view whole).shown (Memory.afterPoll node)), now,
        place.update ((place.view whole).polling known.id) whole) := by
    rw [drives]
    show (Memory.operating place client (Account.get known.id)).run now whole = _
    rw [Memory.run_operating _ now admitted, Account.get_of_found found]
    rfl
  refine ⟨_, place.update ((place.view whole).polling known.id) whole, ?_, id, tag,
    image, location⟩
  rw [run_inspect_of_get looked, checkFresh_of_fits id tag image location, if_pos moved]

/-- A record that any client got at any point of a run still fits at every later point: a look at
its node succeeds and shows the same name, tag, image and location, whatever booted, was rebooted or
was destroyed in between. -/
theorem inspect_accepts_every_earlier_record
    (catalog : Catalog)
    (identity secret : String)
    (keys : TokenSupply)
    (earlier later : List Event)
    {asker : Memory.Client}
    {request : Request}
    {answer : Answer}
    (answered : ((Account.opened catalog identity secret keys).after earlier).reply asker request =
      .ok answer)
    {known : Node}
    (returned : known ∈ answer.records)
    {state : σ}
    (grown : place.view state = (Account.opened catalog identity secret keys).after
      (earlier ++ .request asker request :: later))
    (admitted : (place.view state).admits client = true)
    (now : Nat) :
    ∃ fresh reached, (service.inspect known).run now state = some (.ok fresh, now, reached) ∧
      fresh.id = known.id ∧ fresh.tag = known.tag ∧ fresh.image = known.image ∧
      fresh.location = known.location := by
  apply run_inspect drives admitted _ now
  rw [grown]
  exact Account.remembers_after catalog identity secret keys earlier later answered returned

end Inspection

/-- The life of a node after its creation: it boots, is rebooted, boots again and is destroyed. -/
def wholeLife : List Event :=
  [.request tenant (.list none), .request tenant (.list none),
    .request tenant (.reboot "stub-1"), .request tenant (.get "stub-1"),
    .request tenant (.get "stub-1"), .request tenant (.destroy "stub-1")]

/-- The account of the tenant after the whole life of a node. -/
def outlived : Account :=
  (Account.opened defaultCatalog tenant.identity tenant.secret { label := 1 }).after
    ([.arrangement (.bootPolls 1)] ++ .request tenant (.create "web" zoneTemplate) :: wholeLife)

/-- The record that was made at the creation of a node still fits when the node is gone. -/
theorem first_record_fits_destroyed_node :
    ∃ known fresh reached,
      ((Account.opened defaultCatalog tenant.identity tenant.secret { label := 1 }).after
        [.arrangement (.bootPolls 1)]).reply tenant (.create "web" zoneTemplate) =
          .ok (.node known) ∧
      known.state = .pending ∧
      (outlived.nodes.find? known.id).map (fun node => node.record.state) = some .terminated ∧
      ((tenantService 0 0).inspect known).run 0 outlived = some (.ok fresh, 0, reached) ∧
      fresh.id = known.id := by
  obtain ⟨known, answered, pending, id⟩ : ∃ known,
      ((Account.opened defaultCatalog tenant.identity tenant.secret { label := 1 }).after
        [.arrangement (.bootPolls 1)]).reply tenant (.create "web" zoneTemplate) =
          .ok (.node known) ∧ known.state = .pending ∧ known.id = "stub-1" :=
    ⟨_, rfl, rfl, rfl⟩
  have gone : (outlived.nodes.find? known.id).map (fun node => node.record.state) =
      some .terminated := by
    rw [id]
    decide +kernel
  have fits := @inspect_accepts_every_earlier_record Account Unit (Part.self Account) tenant
    (tenantService 0 0) rfl defaultCatalog tenant.identity tenant.secret { label := 1 }
    [.arrangement (.bootPolls 1)] wholeLife tenant _ _ answered known List.mem_cons_self outlived
    rfl rfl 0
  rcases fits with ⟨fresh, reached, finished, same, _⟩
  exact ⟨known, fresh, reached, answered, pending, gone, finished, same⟩

end Fleet.Service
