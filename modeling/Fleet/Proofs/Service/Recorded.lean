import Fleet.Proofs.Retry.Polling
import Fleet.Service.Recorded

/-!
# Recording changes nothing

A recorded operation whose record is forgotten is the operation itself, activity by activity: the
same calls at the same instants with the same answers.
-/

namespace Fleet.Service

variable {σ S α : Type}

theorem look_eq_recorded
    (provider : Provider σ)
    (id : NodeId)
    (memory : Sighting × FailedLooks) :
    look provider id memory.1 =
      Prod.map (fun ends => ends) Prod.fst <$> recordedLook provider id memory := by
  rw [recordedLook, Activity.bind_eq_bind, Activity.map_bind]
  rfl

theorem awaitSettled_eq_recorded
    (service : Service σ S)
    (id : NodeId)
    (known : NodeState) :
    service.awaitSettled id known = Prod.fst <$> service.recordedWait id known := by
  have followed := PollPolicy.follow_forget (look_eq_recorded service.provider id)
    (settlePolicy service.settings) ({ previous := known }, [])
  rw [awaitSettled, recordedWait, Activity.bind_eq_bind, Activity.bind_eq_bind, followed,
    Activity.bind_map, Activity.map_bind]
  rfl

theorem look_eq_logged
    (provider : Provider σ)
    (id : NodeId)
    (memory : Sighting × List Look) :
    look provider id memory.1 =
      Prod.map (fun ends => ends) Prod.fst <$> loggedLook provider id memory := by
  rw [loggedLook, Activity.bind_eq_bind, Activity.map_bind]
  rfl

theorem awaitSettled_eq_logged
    (service : Service σ S)
    (id : NodeId)
    (known : NodeState) :
    service.awaitSettled id known = Prod.fst <$> service.loggedWait id known := by
  have followed := PollPolicy.follow_forget (look_eq_logged service.provider id)
    (settlePolicy service.settings) ({ previous := known }, [])
  rw [awaitSettled, loggedWait, Activity.bind_eq_bind, Activity.bind_eq_bind, followed,
    Activity.bind_map, Activity.map_bind]
  rfl

theorem requireScript_eq_telling
    (service : Service σ S)
    (options : TemplateOptions)
    (node : Node) :
    service.requireScript options node = Prod.fst <$> service.tellingScript options node := by
  unfold requireScript tellingScript
  cases options.script with
  | none => rfl
  | some script =>
    simp only [Activity.bind_eq_bind, Activity.map_bind]
    congr 1
    funext ending
    cases ending <;> rfl

/-- A node is brought up in the same way without what is told of its script. -/
theorem bringUp_eq_telling
    (service : Service σ S)
    (options : TemplateOptions)
    (created : Node) :
    service.bringUp options created = Prod.fst <$> service.tellingBringUp options created := by
  rw [bringUp, tellingBringUp, Activity.bind_eq_bind, Activity.bind_eq_bind, Activity.map_bind]
  congr 1
  funext settling
  cases runningNode service.settings settling with
  | error failure => rfl
  | ok node =>
    simp only [Activity.bind_eq_bind, Activity.map_bind]
    congr 1
    funext ported
    cases ported with
    | error failure => rfl
    | ok found => exact requireScript_eq_telling service options found

/-- A node is brought up in the same way without the record of failed looks. -/
theorem bringUp_eq_recorded
    (service : Service σ S)
    (options : TemplateOptions)
    (created : Node) :
    service.bringUp options created = Prod.fst <$> service.recordedBringUp options created := by
  have course : service.bringUp options created =
      (service.awaitSettled created.id created.state).bind
        (service.completeBringUp options) := rfl
  rw [course, awaitSettled_eq_recorded, Activity.bind_map, recordedBringUp, Activity.bind_eq_bind,
    Activity.map_bind]
  congr 1
  funext result
  rcases result with ⟨settling, failures⟩
  show _ = Prod.fst <$> (service.completeBringUp options settling).bind fun outcome =>
    .done (outcome, failures)
  rw [Activity.map_bind]
  exact (Activity.bind_done _).symm

/-- A batch is created in the same way without its record. -/
theorem runNodes_eq_recorded
    (service : Service σ S)
    (tag : String)
    (count : Nat)
    (template : Template) :
    service.runNodes tag count template = Prod.fst <$> service.recordedRun tag count template := by
  rw [runNodes, recordedRun]
  split
  · rfl
  · rw [Activity.bind_eq_bind, Activity.bind_eq_bind, Activity.map_bind]
    congr 1
    funext creations
    cases sortCreations creations with
    | error error => rfl
    | ok sorted =>
      have members : sorted.1.map (service.bringUp template.options) =
          (sorted.1.map (service.recordedBringUp template.options)).map (Prod.fst <$> ·) := by
        rw [List.map_map]
        apply List.map_congr_left
        intro created _
        exact bringUp_eq_recorded service template.options created
      simp only [members, Activity.gathered_map, Activity.bind_eq_bind, Activity.bind_map,
        Activity.map_bind]
      rfl

/-- A batch is rebooted in the same way without its record. -/
theorem rebootTagged_eq_recorded
    (service : Service σ S)
    (tag : String) :
    service.rebootTagged tag = Prod.fst <$> service.recordedReboot tag := by
  rw [rebootTagged, recordedReboot, Activity.bind_eq_bind, Activity.bind_eq_bind,
    Activity.map_bind]
  congr 1
  funext answer
  cases answer with
  | error failure => rfl
  | ok results =>
    dsimp only
    cases sortReboots results with
    | error error => rfl
    | ok sorted =>
      have members : (sorted.1.map fun id => service.awaitSettled id .running) =
          (sorted.1.map fun id => service.recordedWait id .running).map (Prod.fst <$> ·) := by
        rw [List.map_map]
        apply List.map_congr_left
        intro id _
        exact awaitSettled_eq_recorded service id .running
      simp only [members, Activity.gathered_map, Activity.bind_eq_bind, Activity.bind_map,
        Activity.map_bind]
      rfl

/-- A batch is destroyed in the same way without its record. -/
theorem destroyTagged_eq_recorded
    (service : Service σ S)
    (tag : String) :
    service.destroyTagged tag = Prod.fst <$> service.recordedDestroy tag := by
  rw [destroyTagged, recordedDestroy, Activity.bind_eq_bind, Activity.bind_eq_bind,
    Activity.map_bind]
  congr 1
  funext answer
  cases answer with
  | error failure => rfl
  | ok results =>
    dsimp only
    cases sortDestructions results with
    | error error => rfl
    | ok outcome =>
      simp only [listTagged, calling, Activity.bind_eq_bind, Activity.bind_assoc,
        Activity.map_bind]
      congr 1
      funext shown
      cases shown <;> rfl

theorem map_recordedCall
    {β : Type}
    (call : ProviderCall)
    (activity : Activity σ (Except ProviderFailure β))
    (complete : β → Except ServiceError α) :
    Prod.fst <$> recordedCall call activity complete =
      (calling call activity).bind fun answer => .done (answer.bind complete) := by
  simp only [recordedCall, calling, Activity.bind_eq_bind, Activity.bind_assoc, Activity.map_bind]
  rfl

theorem calling_eq_recorded
    (call : ProviderCall)
    (activity : Activity σ (Except ProviderFailure α)) :
    calling call activity = Prod.fst <$> recordedCall call activity .ok := by
  rw [map_recordedCall]
  have unchanged : ∀ answer : Except ServiceError α, answer.bind .ok = answer := by
    intro answer
    cases answer <;> rfl
  simp only [unchanged, Activity.bind_done]

theorem calling_eq_namedCall
    (call : ProviderCall)
    (activity : Activity σ (Except ProviderFailure α)) :
    calling call activity =
      Except.mapError (fun named => ServiceError.ofFailure named.1 named.2) <$>
        namedCall call activity := by
  simp only [calling, namedCall, Activity.bind_eq_bind, Activity.map_bind]
  congr 1
  funext answer
  cases answer <;> rfl

theorem fetchCatalog_eq_recorded (service : Service σ S) :
    service.fetchCatalog = Prod.fst <$> service.recordedFetch := by
  simp only [fetchCatalog, recordedFetch, calling_eq_namedCall, Activity.bothOrError_mapError,
    Activity.bind_eq_bind, Activity.bind_map, Activity.map_bind]
  congr 1
  funext offers
  cases offers <;> rfl

/-- A catalog is read in the same way without its record. -/
theorem catalog_eq_recorded (service : Service σ S) :
    service.catalog = Prod.fst <$> service.recordedCatalog := by
  simp only [catalog, CatalogCache.getOrLoad, recordedCatalog, fetchCatalog_eq_recorded,
    Activity.bind_eq_bind, Activity.map_bind]
  congr 1
  funext served
  cases served with
  | some catalog => rfl
  | none =>
    simp only [Activity.bind_map, Activity.map_bind]
    congr 1
    funext result
    rcases result with ⟨answer, calls⟩
    cases answer <;> rfl

end Fleet.Service
