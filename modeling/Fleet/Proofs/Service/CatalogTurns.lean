import Fleet.Proofs.Activity.Instant
import Fleet.Proofs.Activity.Lock
import Fleet.Service.CatalogCache

/-!
# Turns at the catalog cache

The slot of a cache is guarded by a lock: calls for the catalog and calls that drop it have their
turns one after the other. A call that finds a fresh snapshot is answered at once. Otherwise its own
load runs, once and to its end, while the lock is held; when the load succeeds its catalog is kept
with the instant, and when it fails the slot stays as it is. Loads leave the slot alone, so what a
call finds is what the turn before it has left.
-/

namespace Fleet.CatalogCache

variable {σ ε : Type} {cache : CatalogCache σ}

/-- A call to a cache: for the catalog, with a load that leaves the slot alone, or to drop it. -/
inductive Call (cache : CatalogCache σ) (ε : Type) where
  | fetch (load : Activity σ (Except ε Catalog)) (spares : load.Spares cache.slot)
  | invalidate

/-- What a call does; there is no answer to the call that drops the catalog. -/
def Call.work : cache.Call ε → Activity σ (Option (Except ε Catalog))
  | fetch load _ => some <$> cache.getOrLoad load
  | invalidate => (fun _ => none) <$> cache.invalidate

/-- The lock of the slot. -/
abbrev Queue (cache : CatalogCache σ) (ε : Type) :=
  Lock σ (cache.Call ε) (Option (Except ε Catalog))

/-- A call that has been answered. -/
abbrev Turn (cache : CatalogCache σ) (ε : Type) :=
  Lock.Turn σ (cache.Call ε) (Option (Except ε Catalog))

/-- A call that holds the lock of the slot. -/
abbrev Holder (cache : CatalogCache σ) (ε : Type) :=
  Lock.Holder σ (cache.Call ε) (Option (Except ε Catalog))

/-- What may happen around the slot. -/
abbrev Advances (cache : CatalogCache σ) (ε : Type) :
    cache.Queue ε → cache.Queue ε → Prop :=
  Lock.Advances Call.work cache.slot

/-- What may happen around the slot when its lock is handed on at once. -/
abbrev Hastens (cache : CatalogCache σ) (ε : Type) : cache.Queue ε → cache.Queue ε → Prop :=
  Lock.Hastens Call.work cache.slot

/-! ## What a call does -/

/-- What follows a load: its catalog is kept, its failure is not. -/
def keep (cache : CatalogCache σ) :
    Except ε Catalog → Activity σ (Option (Except ε Catalog))
  | .error failure => .done (some (.error failure))
  | .ok catalog =>
    .step (fun now state => cache.slot.update (some ⟨now, catalog⟩) state)
      fun _ _ => .done (some (.ok catalog))

/-- A call for the catalog looks at the slot first. -/
theorem work_fetch
    (load : Activity σ (Except ε Catalog))
    (spares : load.Spares cache.slot) :
    (Call.fetch load spares).work =
      .step (fun _ state => state) fun now state =>
        match serve cache.lifetime now (cache.slot.view state) with
        | some catalog => .done (some (.ok catalog))
        | none => load.bind cache.keep := by
  show Activity.step _ _ = Activity.step _ _
  congr 1
  funext now state
  show (Activity.bind (match serve cache.lifetime now (cache.slot.view state) with
    | some catalog => _
    | none => _) _) = _
  cases serve cache.lifetime now (cache.slot.view state) with
  | some catalog => rfl
  | none =>
    show Activity.bind (Activity.bind load _) _ = _
    rw [Activity.bind_assoc]
    congr 1
    funext result
    cases result <;> rfl

theorem work_invalidate :
    (Call.invalidate : cache.Call ε).work =
      .step (fun _ state => cache.slot.update none state) fun _ _ => .done none := rfl

/-! ## What a turn was -/

/-- The call was answered from the slot: it looked there and did nothing more. -/
def Turn.Served (turn : cache.Turn ε) (catalog : Catalog) : Prop :=
  (∃ load spares, turn.call = .fetch load spares) ∧ turn.later = [] ∧
    turn.answer = some (.ok catalog)

/-- The load of the call ran once, from its beginning to its end, and after it the catalog that it
gave was kept. -/
def Turn.Loaded (turn : cache.Turn ε) (catalog : Catalog) : Prop :=
  ∃ load spares during kept, turn.call = .fetch load spares ∧ turn.later = during ++ [kept] ∧
    kept.instant = turn.ended.instant ∧ load.along during = some (.ok catalog) ∧
    turn.answer = some (.ok catalog)

/-- The load of the call ran once, from its beginning to its end, and failed. -/
def Turn.Failed (turn : cache.Turn ε) (failure : ε) : Prop :=
  ∃ load spares, turn.call = .fetch load spares ∧
    load.along turn.later = some (.error failure) ∧
    turn.answer = some (.error failure)

/-- What the slot says when the call obtains its lock. -/
def Turn.found (turn : cache.Turn ε) : Option Snapshot :=
  cache.slot.view turn.first.state

/-- What the slot says when the call gives its lock back. -/
def Turn.left (turn : cache.Turn ε) : Option Snapshot :=
  cache.slot.view turn.ended.state

/-- The ways in which a turn can go. -/
inductive Turn.Goes (turn : cache.Turn ε) : Prop where
  | served (catalog : Catalog)
      (fresh : serve cache.lifetime turn.first.instant turn.found = some catalog)
      (served : turn.Served catalog) (kept : turn.left = turn.found)
      (atOnce : turn.ended.instant = turn.first.instant)
  | loaded (catalog : Catalog)
      (stale : serve cache.lifetime turn.first.instant turn.found = none)
      (loaded : turn.Loaded catalog) (stored : turn.left = some ⟨turn.ended.instant, catalog⟩)
  | failed (failure : ε) (stale : serve cache.lifetime turn.first.instant turn.found = none)
      (failed : turn.Failed failure) (kept : turn.left = turn.found)
  | dropped (dropping : turn.call = .invalidate) (answered : turn.answer = none)
      (emptied : turn.left = none) (atOnce : turn.ended.instant = turn.first.instant)

/-- Each turn finds in the slot what the one before has left. -/
def Follows : Option Snapshot → List (cache.Turn ε) → Option Snapshot → Prop
  | stored, [], last => last = stored
  | stored, turn :: rest, last =>
    turn.found = stored ∧ turn.Goes ∧ Follows turn.left rest last

theorem follows_append_iff
    (early late : List (cache.Turn ε))
    (stored last : Option Snapshot) :
    Follows stored (early ++ late) last ↔
      ∃ between, Follows stored early between ∧ Follows between late last := by
  induction early generalizing stored with
  | nil => simp [Follows]
  | cons turn rest inductionHypothesis => simp [Follows, inductionHypothesis, and_assoc]

/-! ## What the holder is doing -/

/-- The load of the holder is running: this is left of it, and the slot is as it was found. -/
structure Loading (world : σ) (holder : cache.Holder ε) : Prop where
  running : ∃ (load : Activity σ (Except ε Catalog)) (spares : load.Spares cache.slot)
    (remaining : Activity σ (Except ε Catalog)), holder.call = .fetch load spares ∧
      holder.rest = remaining.bind cache.keep ∧ remaining.Spares cache.slot ∧
      ∀ more result, remaining.along more = some result →
        load.along (holder.later ++ more) = some result
  stale : serve cache.lifetime holder.first.instant (cache.slot.view holder.first.state) = none
  kept : cache.slot.view world = cache.slot.view holder.first.state

/-- The holder is about to give the lock back, and its turn goes as a turn can go. -/
def Ready (instant : Nat) (world : σ) (holder : cache.Holder ε) : Prop :=
  ∃ answer, holder.rest = .done answer ∧
    ∀ state, cache.slot.view state = cache.slot.view world →
      Turn.Goes (⟨holder.call, holder.first, holder.later, ⟨instant, state⟩, answer⟩ :
        cache.Turn ε)

/-- All turns have gone as turns can go, and so does the present one. -/
inductive Sound (lock : cache.Queue ε) : Prop where
  | free (nobody : lock.holder = none)
      (follows : Follows none lock.past (cache.slot.view lock.world))
  | held (holder : cache.Holder ε) (holds : lock.holder = some holder)
      (follows : Follows none lock.past (cache.slot.view holder.first.state))
      (stage : Loading lock.world holder ∨ Ready lock.instant lock.world holder)

variable {lock next : cache.Queue ε}

/-- The call that begins finds the snapshot that was left. -/
theorem stage_of_obtain
    (lawful : cache.slot.Lawful)
    {instant : Nat}
    {world : σ}
    {call : cache.Call ε}
    {effect : Nat → σ → σ}
    {following : Nat → σ → Activity σ (Option (Except ε Catalog))}
    (begins : call.work = .step effect following) :
    Loading (effect instant world) ⟨call, ⟨instant, world⟩, [], following instant world⟩ ∨
      Ready instant (effect instant world)
        ⟨call, ⟨instant, world⟩, [], following instant world⟩ := by
  cases call with
  | invalidate =>
    rw [work_invalidate] at begins
    cases begins
    refine Or.inr ⟨none, rfl, fun state same => .dropped rfl rfl ?_ rfl⟩
    exact same.trans (lawful.view_update none world)
  | fetch load spares =>
    rw [work_fetch] at begins
    cases begins
    cases fresh : serve cache.lifetime instant (cache.slot.view world) with
    | some catalog =>
      refine Or.inr ⟨some (.ok catalog), by simp only [fresh], fun state same => ?_⟩
      exact .served catalog fresh ⟨⟨load, spares, rfl⟩, rfl, rfl⟩ same rfl
    | none =>
      refine Or.inl
        ⟨⟨load, spares, load, rfl, by simp only [fresh], spares, ?_⟩, fresh, rfl⟩
      exact fun more result followed => followed

theorem Ready.not_step
    {instant : Nat}
    {world : σ}
    {holder : cache.Holder ε}
    (ready : Ready instant world holder)
    {effect : Nat → σ → σ}
    {following : Nat → σ → Activity σ (Option (Except ε Catalog))} :
    holder.rest ≠ .step effect following := by
  obtain ⟨answer, finished, -⟩ := ready
  rw [finished]
  rintro ⟨⟩

/-- A running load goes on, or its catalog is kept. -/
theorem Loading.act
    (lawful : cache.slot.Lawful)
    {instant : Nat}
    {world : σ}
    {call : cache.Call ε}
    {first : Moment σ}
    {later : List (Moment σ)}
    {effect : Nat → σ → σ}
    {following : Nat → σ → Activity σ (Option (Except ε Catalog))}
    (loading : Loading world (⟨call, first, later, .step effect following⟩ : cache.Holder ε)) :
    Loading (effect instant world)
        (⟨call, first, later ++ [⟨instant, world⟩], following instant world⟩ :
          cache.Holder ε) ∨
      Ready instant (effect instant world)
        (⟨call, first, later ++ [⟨instant, world⟩], following instant world⟩ :
          cache.Holder ε) := by
  obtain ⟨⟨load, spares, remaining, isFetch, rest, ahead, told⟩, stale, kept⟩ := loading
  cases remaining with
  | done result =>
    cases result with
    | error failure => cases rest
    | ok catalog =>
      cases rest
      refine Or.inr ⟨_, rfl, fun state same => .loaded catalog stale ?_ ?_⟩
      · refine ⟨load, spares, later, _, isFetch, rfl, rfl, ?_, rfl⟩
        simpa using told [] (.ok catalog) rfl
      · exact same.trans (lawful.view_update _ world)
  | step inner onwards =>
    cases rest
    obtain ⟨spared, further⟩ := ahead instant world
    refine Or.inl ⟨⟨load, spares, onwards instant world, isFetch, rfl, further, ?_⟩, stale,
      spared.trans kept⟩
    intro more result followed
    simpa using told (⟨instant, world⟩ :: more) result followed
  | wait alarm onwards => cases rest
  | hang => cases rest

/-- A load that was asleep is running when it wakes. -/
theorem Loading.wake
    {world : σ}
    {call : cache.Call ε}
    {first : Moment σ}
    {later : List (Moment σ)}
    {alarm : Alarm}
    {following : Activity σ (Option (Except ε Catalog))}
    (loading : Loading world (⟨call, first, later, .wait alarm following⟩ : cache.Holder ε)) :
    Loading world (⟨call, first, later, following⟩ : cache.Holder ε) := by
  obtain ⟨⟨load, spares, remaining, isFetch, rest, ahead, told⟩, stale, kept⟩ := loading
  cases remaining with
  | done result => cases result <;> cases rest
  | step effect onwards => cases rest
  | wait alarm onwards =>
    cases rest
    refine ⟨⟨load, spares, onwards, isFetch, rfl, ahead, fun more result followed => ?_⟩,
      stale,
      kept⟩
    exact told more result (by rwa [Activity.along_wait])
  | hang => cases rest

/-- A load that is at its end without keeping anything has failed. -/
theorem Loading.goes
    {instant : Nat}
    {world : σ}
    {call : cache.Call ε}
    {first : Moment σ}
    {later : List (Moment σ)}
    {answer : Option (Except ε Catalog)}
    (loading : Loading world (⟨call, first, later, .done answer⟩ : cache.Holder ε)) :
    Turn.Goes (⟨call, first, later, ⟨instant, world⟩, answer⟩ : cache.Turn ε) := by
  obtain ⟨⟨load, spares, remaining, isFetch, rest, -, told⟩, stale, kept⟩ := loading
  cases remaining with
  | done result =>
    cases result with
    | error failure =>
      cases rest
      refine .failed failure stale ⟨load, spares, isFetch, ?_, rfl⟩ kept
      simpa using told [] (.error failure) rfl
    | ok catalog => cases rest
  | step effect onwards => cases rest
  | wait alarm onwards => cases rest
  | hang => cases rest

/-- What others do to the world does not matter to the holder. -/
theorem Loading.of_view
    {world changed : σ}
    {holder : cache.Holder ε}
    (loading : Loading world holder)
    (spared : cache.slot.view changed = cache.slot.view world) :
    Loading changed holder :=
  ⟨loading.running, loading.stale, spared.trans loading.kept⟩

theorem Ready.of_view
    {instant : Nat}
    {world changed : σ}
    {holder : cache.Holder ε}
    (ready : Ready instant world holder)
    (spared : cache.slot.view changed = cache.slot.view world) :
    Ready instant changed holder := by
  obtain ⟨answer, finished, goes⟩ := ready
  exact ⟨answer, finished, fun state same => goes state (same.trans spared)⟩

theorem Ready.not_asleep
    {instant : Nat}
    {world : σ}
    {holder : cache.Holder ε}
    (ready : Ready instant world holder) :
    ¬ holder.rest.Asleep := by
  obtain ⟨answer, finished, -⟩ := ready
  rw [finished]
  exact id

/-- Whatever happens, the turns go as turns can go. A holder that is ready has nothing left to do or
to wait for, so whoever moves is loading. -/
theorem Sound.advance
    (lawful : cache.slot.Lawful)
    (sound : Sound lock)
    (advances : cache.Advances ε lock next) :
    Sound next := by
  cases sound with
  | free nobody follows =>
    cases advances with
    | arrive => exact .free nobody follows
    | pass => exact .free nobody follows
    | other instant world changed holder waiting past spared =>
      exact .free nobody (by rw [spared]; exact follows)
    | obtain instant world call waiting past effect following begins =>
      exact .held _ rfl follows (stage_of_obtain lawful begins)
    | act => cases nobody
    | wake => cases nobody
    | leave => cases nobody
  | held holder holds follows stage =>
    cases advances with
    | arrive => exact .held holder holds follows stage
    | pass instant onwards world held waiting past ahead asleep =>
      refine .held holder holds follows (Or.inl ?_)
      exact stage.resolve_right fun ready => ready.not_asleep (asleep holder holds)
    | other instant world changed held waiting past spared =>
      refine .held holder holds follows ?_
      exact stage.imp (fun loading => loading.of_view spared) fun ready => ready.of_view spared
    | obtain => cases holds
    | act =>
      cases holds
      have loading := stage.resolve_right fun ready => ready.not_step rfl
      exact .held _ rfl follows (loading.act lawful)
    | wake =>
      cases holds
      refine .held _ rfl follows (Or.inl ?_)
      refine (stage.resolve_right fun ready => ?_).wake
      exact ready.not_asleep trivial
    | leave instant world call first later answer waiting past =>
      cases holds
      refine .free rfl ((follows_append_iff ..).2 ⟨_, follows, rfl, ?_, rfl⟩)
      rcases stage with loading | ⟨other, finished, goes⟩
      · exact loading.goes
      · cases finished
        exact goes world rfl

/-- What is true of every run that starts with an empty slot. -/
theorem sound_of_run
    (lawful : cache.slot.Lawful)
    {start : cache.Queue ε}
    (unused : start.Unused)
    (empty : cache.slot.view start.world = none)
    (run : Relation.ReflTransGen (cache.Advances ε) start lock) :
    Sound lock := by
  induction run with
  | refl =>
    refine .free unused.free ?_
    rw [unused.nothingPast, empty]
    rfl
  | tail _ advances inductionHypothesis => exact inductionHypothesis.advance lawful advances

/-- The slot says at the end of the turns what the holder has found, or what it says now. -/
theorem Sound.exists_follows (sound : Sound lock) :
    ∃ last, Follows none lock.past last ∧
      (lock.holder = none → cache.slot.view lock.world = last) ∧
      ∀ holder, lock.holder = some holder → cache.slot.view holder.first.state = last ∧
        (Loading lock.world holder ∨ Ready lock.instant lock.world holder) := by
  cases sound with
  | free nobody follows =>
    refine ⟨_, follows, fun _ => rfl, fun holder holds => ?_⟩
    rw [nobody] at holds
    cases holds
  | held present holds follows stage =>
    refine ⟨_, follows, fun nobody => ?_, fun holder again => ?_⟩
    · rw [holds] at nobody
      cases nobody
    · rw [holds] at again
      cases again
      exact ⟨rfl, stage⟩

/-! ## Calls in turn -/

theorem exists_work_eq_step (call : cache.Call ε) :
    ∃ effect next, call.work = .step effect next := by
  cases call with
  | fetch load spares => exact ⟨_, _, work_fetch load spares⟩
  | invalidate => exact ⟨_, _, work_invalidate⟩

/-- Calls for the catalog in turn are calls that wait for the lock together, when it is handed on at
once. -/
theorem run_of_inTurn
    (loads : List {load : Activity σ (Except ε Catalog) // load.Spares cache.slot})
    {instant ended : Nat}
    {world reached : σ}
    {results : List (Except ε Catalog)}
    (finished : (inTurn (loads.map fun load => cache.getOrLoad load.1)).run instant world =
      some (results, ended, reached))
    (past : List (cache.Turn ε)) :
    ∃ turns : List (cache.Turn ε),
      Relation.ReflTransGen (cache.Hastens ε)
        ⟨instant, world, none, loads.map fun load => .fetch load.1 load.2, past⟩
        ⟨ended, reached, none, [], past ++ turns⟩ ∧
      turns.map Lock.Turn.answer = results.map some := by
  induction loads generalizing instant world results past with
  | nil =>
    cases finished
    exact ⟨[], by rw [List.append_nil]; exact .refl, rfl⟩
  | cons load rest inductionHypothesis =>
    simp only [List.map_cons, inTurn, Activity.bind_eq_bind, Activity.run_bind,
      Option.bind_eq_some_iff] at finished
    obtain ⟨⟨result, between, middle⟩, answered, ⟨others, last, final⟩,
      onwards, same⟩ :=
      finished
    cases same
    have worked : (Call.fetch load.1 load.2 : cache.Call ε).work.run instant world =
        some (some result, between, middle) := by
      show ((cache.getOrLoad load.1).bind _).run instant world = _
      rw [Activity.run_bind, answered]
      rfl
    obtain ⟨effect, next, begins⟩ :=
      exists_work_eq_step (Call.fetch load.1 load.2 : cache.Call ε)
    have hadTurn : ∃ turn : cache.Turn ε, turn.answer = some result ∧
        Relation.ReflTransGen (cache.Hastens ε)
          ⟨instant, world, none, (load :: rest).map fun load => .fetch load.1 load.2, past⟩
          ⟨between, middle, none, rest.map fun load => .fetch load.1 load.2,
            past ++ [turn]⟩ := by
      obtain ⟨met, turn⟩ := Lock.run_of_call begins worked _ past
      exact ⟨_, rfl, turn⟩
    obtain ⟨turn, answer, first⟩ := hadTurn
    obtain ⟨turns, further, answers⟩ := inductionHypothesis onwards (past ++ [turn])
    rw [List.append_assoc] at further
    refine ⟨turn :: turns, first.trans further, ?_⟩
    rw [List.map_cons, answer, answers, List.map_cons]

end Fleet.CatalogCache
