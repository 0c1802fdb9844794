import Fleet.Proofs.Service.CatalogTurns
import Mathlib.Data.List.Induction

/-!
# When a catalog is served

What the slot of a cache says is determined by the turns before: it holds the catalog of the last
load that succeeded, with the instant at which that load ended, unless the catalog was dropped
since. So a call is answered without its load exactly when such a catalog exists and is young enough
when the call obtains the lock, and otherwise its own load runs once. A load that fails changes
nothing.

Calls that find no catalog to serve load one after the other until one load succeeds, and the calls
behind it get its catalog, since the clock does not move before all of them have it.
-/

namespace Fleet.CatalogCache

variable {σ ε : Type} {cache : CatalogCache σ}

/-- The snapshot is that of the last load that succeeded, and the catalog was not dropped since. -/
def LastLoaded (turns : List (cache.Turn ε)) (snapshot : Snapshot) : Prop :=
  ∃ (earlier : List (cache.Turn ε)) (turn : cache.Turn ε) (later : List (cache.Turn ε)),
    turns = earlier ++ turn :: later ∧ turn.Loaded snapshot.catalog ∧
      turn.ended.instant = snapshot.loadedAt ∧
      ∀ other ∈ later, other.call ≠ .invalidate ∧ ∀ catalog, ¬ Turn.Loaded other catalog

/-- The catalog is that of the last load that succeeded, it was not dropped since, and less than a
lifetime has passed since that load ended. -/
def Standing (turns : List (cache.Turn ε)) (now : Nat) (catalog : Catalog) : Prop :=
  ∃ loadedAt, LastLoaded turns ⟨loadedAt, catalog⟩ ∧ now - loadedAt < cache.lifetime

/-- Loads fail, until one succeeds; all turns behind it are served with its catalog at the instant
at which that load ended. -/
inductive Rush : List (cache.Turn ε) → Prop where
  | nobody : Rush []
  | failed (turn : cache.Turn ε) (rest : List (cache.Turn ε)) (failure : ε)
      (failed : turn.Failed failure) (onwards : Rush rest) : Rush (turn :: rest)
  | loaded (turn : cache.Turn ε) (rest : List (cache.Turn ε)) (catalog : Catalog)
      (loaded : turn.Loaded catalog)
      (served : ∀ other ∈ rest, Turn.Served other catalog ∧
        other.first.instant = turn.ended.instant ∧ other.ended.instant = turn.ended.instant) :
    Rush (turn :: rest)

/-! ## The kinds of turns -/

section Kinds

variable {turn : cache.Turn ε} {catalog other : Catalog} {failure : ε}

theorem Turn.Loaded.unique
    (loaded : turn.Loaded catalog)
    (again : turn.Loaded other) :
    other = catalog := by
  obtain ⟨_, _, _, _, _, _, _, _, answer⟩ := loaded
  obtain ⟨_, _, _, _, _, _, _, _, same⟩ := again
  rw [answer] at same
  cases same
  rfl

theorem Turn.Served.not_loaded (served : turn.Served catalog) : ¬ turn.Loaded other := by
  rintro ⟨_, _, during, kept, _, later, _⟩
  rw [served.2.1] at later
  simp at later

theorem Turn.Failed.not_loaded (failed : turn.Failed failure) : ¬ turn.Loaded catalog := by
  rintro ⟨_, _, _, _, _, _, _, _, answer⟩
  obtain ⟨_, _, _, _, same⟩ := failed
  rw [answer] at same
  cases same

theorem Turn.Failed.not_served (failed : turn.Failed failure) : ¬ turn.Served catalog := by
  rintro ⟨_, _, answer⟩
  obtain ⟨_, _, _, _, same⟩ := failed
  rw [answer] at same
  cases same

theorem not_loaded_of_dropping (dropping : turn.call = .invalidate) : ¬ turn.Loaded catalog := by
  rintro ⟨_, _, _, _, isFetch, _⟩
  rw [dropping] at isFetch
  cases isFetch

theorem call_ne_invalidate_of_isFetch
    (isFetch : ∃ load spares, turn.call = .fetch load spares) : turn.call ≠ .invalidate := by
  obtain ⟨_, _, isFetch⟩ := isFetch
  rw [isFetch]
  rintro ⟨⟩

end Kinds

/-! ## What the slot says -/

theorem serve_eq_some_iff
    {lifetime now : Nat}
    {slot : Option Snapshot}
    {catalog : Catalog} :
    serve lifetime now slot = some catalog ↔
      ∃ loadedAt, slot = some ⟨loadedAt, catalog⟩ ∧ now - loadedAt < lifetime := by
  cases slot with
  | none => simp [serve]
  | some snapshot =>
    obtain ⟨loadedAt, kept⟩ := snapshot
    by_cases fresh : now - loadedAt < lifetime
    · simp [serve, Snapshot.isFresh, Option.filter, fresh]
    · simp [serve, Snapshot.isFresh, Option.filter, fresh]

/-- A snapshot that is stale stays so. -/
theorem serve_eq_none_mono
    {lifetime now onwards : Nat}
    {slot : Option Snapshot}
    (stale : serve lifetime now slot = none)
    (ahead : now ≤ onwards) :
    serve lifetime onwards slot = none := by
  rw [Option.eq_none_iff_forall_ne_some] at stale ⊢
  intro catalog fresh
  obtain ⟨loadedAt, kept, young⟩ := serve_eq_some_iff.1 fresh
  exact stale catalog (serve_eq_some_iff.2 ⟨loadedAt, kept, by omega⟩)

/-- The last load of a history is its last turn, or it was the last load before, and the last turn
neither loads a catalog nor drops it. -/
theorem lastLoaded_append_singleton_iff
    (turns : List (cache.Turn ε))
    (turn : cache.Turn ε)
    (snapshot : Snapshot) :
    LastLoaded (turns ++ [turn]) snapshot ↔
      (turn.Loaded snapshot.catalog ∧ turn.ended.instant = snapshot.loadedAt) ∨
        (LastLoaded turns snapshot ∧ turn.call ≠ .invalidate ∧
          ∀ catalog, ¬ turn.Loaded catalog) := by
  constructor
  · rintro ⟨earlier, loading, later, split, loaded, ended, since⟩
    rcases List.eq_nil_or_concat later with rfl | ⟨before, last, rfl⟩
    · obtain ⟨-, same⟩ := List.append_inj' split rfl
      cases same
      exact Or.inl ⟨loaded, ended⟩
    · rw [List.concat_eq_append] at split since
      rw [← List.cons_append, ← List.append_assoc] at split
      obtain ⟨rfl, same⟩ := List.append_inj' split rfl
      cases same
      have fetching := since turn (by simp)
      have others : ∀ other ∈ before,
          other.call ≠ .invalidate ∧ ∀ catalog, ¬ other.Loaded catalog :=
        fun other among => since other (List.mem_append_left _ among)
      exact Or.inr ⟨⟨earlier, loading, before, rfl, loaded, ended, others⟩, fetching⟩
  · rintro (⟨loaded, ended⟩ | ⟨loadedBefore, fetching, idle⟩)
    · exact ⟨turns, turn, [], rfl, loaded, ended, List.forall_mem_nil _⟩
    · obtain ⟨earlier, loading, later, rfl, loaded, ended, since⟩ := loadedBefore
      refine ⟨earlier, loading, later ++ [turn], by simp, loaded, ended, fun other among => ?_⟩
      rcases List.mem_append.1 among with before | last
      · exact since other before
      · rw [List.mem_singleton.1 last]
        exact ⟨fetching, idle⟩

/-- The slot says what was loaded last and not dropped since. -/
theorem Follows.lastLoaded_iff
    {turns : List (cache.Turn ε)}
    {last : Option Snapshot}
    (follows : Follows none turns last)
    (snapshot : Snapshot) :
    last = some snapshot ↔ LastLoaded turns snapshot := by
  induction turns using List.reverseRecOn generalizing last with
  | nil =>
    obtain rfl : last = none := follows
    constructor
    · rintro ⟨⟩
    · rintro ⟨earlier, turn, later, split, -⟩
      simp at split
  | append_singleton turns turn inductionHypothesis =>
    obtain ⟨between, before, found, goes, rfl⟩ := (follows_append_iff ..).1 follows
    rw [lastLoaded_append_singleton_iff, ← inductionHypothesis before, ← found]
    cases goes with
    | served catalog fresh served kept atOnce =>
      rw [kept]
      simp [served.not_loaded, call_ne_invalidate_of_isFetch served.1]
    | loaded catalog stale loaded stored =>
      rw [stored]
      constructor
      · rintro ⟨⟩
        exact Or.inl ⟨loaded, rfl⟩
      · rintro (⟨again, ended⟩ | ⟨-, -, idle⟩)
        · rw [← loaded.unique again, ended]
        · exact absurd loaded (idle catalog)
    | failed failure stale failed kept =>
      rw [kept]
      obtain ⟨load, spares, isFetch, -⟩ := id failed
      simp [failed.not_loaded, isFetch]
    | dropped dropping answered emptied atOnce =>
      rw [emptied]
      simp [not_loaded_of_dropping dropping, dropping]

theorem Follows.standing_iff
    {turns : List (cache.Turn ε)}
    {last : Option Snapshot}
    (follows : Follows none turns last)
    (now : Nat)
    (catalog : Catalog) :
    Standing turns now catalog ↔ serve cache.lifetime now last = some catalog := by
  rw [serve_eq_some_iff, Standing]
  simp only [follows.lastLoaded_iff]

/-- Around a turn, the turns before it have gone as turns can go, and so did it. -/
theorem Follows.around
    {before after : List (cache.Turn ε)}
    {turn : cache.Turn ε}
    {stored last : Option Snapshot}
    (follows : Follows stored (before ++ turn :: after) last) :
    Follows stored before turn.found ∧ turn.Goes ∧
      Follows stored (before ++ [turn]) turn.left := by
  obtain ⟨between, earlier, found, goes, -⟩ := (follows_append_iff ..).1 follows
  obtain rfl := found
  exact ⟨earlier, goes, (follows_append_iff ..).2 ⟨_, earlier, rfl, goes, rfl⟩⟩

/-! ## How a call is answered -/

section Answers

variable {turn : cache.Turn ε} (goes : turn.Goes) (fetching : turn.call ≠ .invalidate)

include goes fetching

/-- Who finds a fresh catalog is served at once, and leaves it as it is. -/
theorem served_of_fresh
    {catalog : Catalog}
    (fresh : serve cache.lifetime turn.first.instant turn.found = some catalog) :
    turn.Served catalog ∧ turn.left = turn.found ∧ turn.ended.instant = turn.first.instant := by
  cases goes with
  | served given young served kept atOnce =>
    rw [young] at fresh
    cases fresh
    exact ⟨served, kept, atOnce⟩
  | loaded given stale loaded stored =>
    rw [stale] at fresh
    cases fresh
  | failed failure stale failed kept =>
    rw [stale] at fresh
    cases fresh
  | dropped dropping answered emptied atOnce => exact absurd dropping fetching

theorem loads_of_stale (stale : serve cache.lifetime turn.first.instant turn.found = none) :
    (∃ catalog, turn.Loaded catalog ∧ turn.left = some ⟨turn.ended.instant, catalog⟩) ∨
      ∃ failure, turn.Failed failure ∧ turn.left = turn.found := by
  cases goes with
  | served catalog fresh served kept atOnce =>
    rw [stale] at fresh
    cases fresh
  | loaded catalog stale loaded stored => exact Or.inl ⟨catalog, loaded, stored⟩
  | failed failure stale failed kept => exact Or.inr ⟨failure, failed, kept⟩
  | dropped dropping answered emptied atOnce => exact absurd dropping fetching

/-- A turn is served what is fresh, and nothing else. -/
theorem served_iff (catalog : Catalog) :
    turn.Served catalog ↔
      serve cache.lifetime turn.first.instant turn.found = some catalog := by
  constructor
  · intro served
    cases young : serve cache.lifetime turn.first.instant turn.found with
    | some other =>
      obtain ⟨⟨-, -, answer⟩, -⟩ := served_of_fresh goes fetching young
      rw [served.2.2] at answer
      cases answer
      rfl
    | none =>
      rcases loads_of_stale goes fetching young with
        ⟨other, loaded, -⟩ | ⟨failure, failed, -⟩
      · exact absurd loaded served.not_loaded
      · exact absurd served failed.not_served
  · intro fresh
    exact (served_of_fresh goes fetching fresh).1

/-- A turn loads exactly when it finds nothing fresh. -/
theorem loads_iff :
    ((∃ catalog, turn.Loaded catalog) ∨ ∃ failure, turn.Failed failure) ↔
      serve cache.lifetime turn.first.instant turn.found = none := by
  constructor
  · intro loads
    rw [Option.eq_none_iff_forall_ne_some]
    intro catalog fresh
    obtain ⟨served, -⟩ := served_of_fresh goes fetching fresh
    rcases loads with ⟨other, loaded⟩ | ⟨failure, failed⟩
    · exact served.not_loaded loaded
    · exact failed.not_served served
  · intro stale
    exact (loads_of_stale goes fetching stale).imp
      (fun ⟨catalog, loaded, _⟩ => ⟨catalog, loaded⟩)
      fun ⟨failure, failed, _⟩ => ⟨failure, failed⟩

end Answers

theorem left_of_failed
    {turn : cache.Turn ε}
    (goes : turn.Goes)
    {failure : ε}
    (failed : turn.Failed failure) :
    turn.left = turn.found := by
  cases goes with
  | served catalog fresh served kept atOnce => exact kept
  | loaded catalog stale loaded stored => exact absurd loaded failed.not_loaded
  | failed other stale again kept => exact kept
  | dropped dropping answered emptied atOnce =>
    obtain ⟨load, spares, isFetch, -⟩ := failed
    cases dropping.symm.trans isFetch

/-! ## Calls at once -/

section AtOnce

open Lock (HandedOver)

variable {turns : List (cache.Turn ε)} {stored last : Option Snapshot} {begun now : Nat}
  (fetching : ∀ turn ∈ turns, turn.call ≠ .invalidate)
  (handed : HandedOver begun turns now) (follows : Follows stored turns last)
  (lasting : 0 < cache.lifetime)

include fetching handed follows lasting

/-- A catalog that was loaded just now is served to everybody who waits, and no time passes. -/
theorem served_of_handedOver
    {catalog : Catalog}
    (fresh : stored = some ⟨begun, catalog⟩) :
    (now = begun ∧ last = stored) ∧ ∀ turn ∈ turns, Turn.Served turn catalog ∧
      turn.first.instant = begun ∧ turn.ended.instant = begun := by
  induction turns generalizing stored begun with
  | nil => exact ⟨⟨handed, follows⟩, List.forall_mem_nil _⟩
  | cons turn rest inductionHypothesis =>
    obtain ⟨first, onwards⟩ := handed
    obtain ⟨found, goes, further⟩ := follows
    obtain ⟨fetchingFirst, fetchingRest⟩ := List.forall_mem_cons.1 fetching
    have young : serve cache.lifetime turn.first.instant turn.found = some catalog := by
      rw [found, first, fresh]
      exact serve_eq_some_iff.2 ⟨begun, rfl, by simpa using lasting⟩
    obtain ⟨served, kept, atOnce⟩ := served_of_fresh goes fetchingFirst young
    have same : turn.ended.instant = begun := atOnce.trans first
    have ready : turn.left = some ⟨turn.ended.instant, catalog⟩ := by
      rw [kept, found, fresh, same]
    obtain ⟨⟨standing, unchanged⟩, others⟩ :=
      inductionHypothesis fetchingRest onwards further ready
    refine ⟨⟨standing.trans same, unchanged.trans (kept.trans found)⟩,
      List.forall_mem_cons.2 ⟨⟨served, first, same⟩, ?_⟩⟩
    rwa [same] at others

/-- When there is nothing to serve at first, calls in turn without a break load until one load
succeeds. From then on the clock stands still and its catalog is served. -/
theorem rush_of_handedOver
    (stale : serve cache.lifetime begun stored = none)
    (forwards : ∀ turn ∈ turns, turn.first.instant ≤ turn.ended.instant) :
    Rush turns ∧ ∀ turn ∈ turns, ∀ catalog, Turn.Loaded turn catalog →
      now = turn.ended.instant ∧ last = some ⟨now, catalog⟩ := by
  induction turns generalizing stored begun with
  | nil => exact ⟨.nobody, List.forall_mem_nil _⟩
  | cons turn rest inductionHypothesis =>
    obtain ⟨first, onwards⟩ := handed
    obtain ⟨found, goes, further⟩ := follows
    obtain ⟨fetchingFirst, fetchingRest⟩ := List.forall_mem_cons.1 fetching
    obtain ⟨forward, forwardsRest⟩ := List.forall_mem_cons.1 forwards
    rw [← first, ← found] at stale
    rcases loads_of_stale goes fetchingFirst stale with
      ⟨catalog, loaded, stored⟩ | ⟨failure, failed, kept⟩
    · obtain ⟨⟨standing, unchanged⟩, others⟩ :=
        served_of_handedOver fetchingRest onwards further lasting stored
      refine ⟨.loaded turn rest catalog loaded others, List.forall_mem_cons.2 ⟨?_, ?_⟩⟩
      · intro other again
        rw [loaded.unique again, unchanged, stored, standing]
        exact ⟨rfl, rfl⟩
      · intro served among other again
        exact absurd again (others served among).1.not_loaded
    · have staleStill : serve cache.lifetime turn.ended.instant turn.left = none := by
        rw [kept]
        exact serve_eq_none_mono stale forward
      obtain ⟨rush, loads⟩ :=
        inductionHypothesis fetchingRest onwards further staleStill forwardsRest
      refine ⟨.failed turn rest failure failed rush, List.forall_mem_cons.2 ⟨?_, loads⟩⟩
      exact fun catalog loaded => absurd loaded failed.not_loaded

end AtOnce

/-- A holder that has found something to serve is about to give the lock back, and no time has
passed. -/
theorem instant_eq_of_fresh
    {lock : cache.Queue ε}
    {holder : cache.Holder ε}
    {catalog : Catalog}
    (stage : Loading lock.world holder ∨ Ready lock.instant lock.world holder)
    (fresh : serve cache.lifetime holder.first.instant (cache.slot.view holder.first.state) =
      some catalog) :
    lock.instant = holder.first.instant := by
  rcases stage with loading | ⟨answer, -, goes⟩
  · rw [loading.stale] at fresh
    cases fresh
  · cases goes lock.world rfl with
    | served given young served kept atOnce => exact atOnce
    | loaded given stale loaded stored =>
      cases stale.symm.trans fresh
    | failed failure stale failed kept =>
      cases stale.symm.trans fresh
    | dropped dropping answered emptied atOnce => exact atOnce

section Runs

variable {start lock later : cache.Queue ε} (lawful : cache.slot.Lawful) (unused : start.Unused)
  (empty : cache.slot.view start.world = none)
  (run : Relation.ReflTransGen (cache.Advances ε) start lock)

include lawful unused empty run

/-- The calls that have no answer while there is nothing to serve load in turn until one load
succeeds; the others get its catalog before the clock moves again. -/
theorem rush_of_run
    (prompt : Relation.ReflTransGen (cache.Hastens ε) lock later)
    (lasting : 0 < cache.lifetime)
    (fetching : ∀ call ∈ lock.pending, call ≠ .invalidate)
    (nothing : ∀ catalog, ¬ Standing lock.past lock.begun catalog)
    {turns others : List (cache.Turn ε)}
    (past : later.past = lock.past ++ (turns ++ others))
    (fewer : turns.length ≤ lock.pending.length) :
    turns.map Lock.Turn.call <+: lock.pending ∧ Rush turns ∧
      (others = [] → turns.length < lock.pending.length →
        ∀ turn ∈ turns, (∃ catalog, Turn.Loaded turn catalog) →
          later.instant = turn.ended.instant) := by
  have whole := run.trans (Lock.advances_of_hastens prompt)
  have chronological := Lock.chronological_of_run unused whole
  obtain ⟨last, follows, now, present⟩ :=
    (sound_of_run lawful unused empty whole).exists_follows
  have inOrder := Lock.calls_of_turns (Lock.keeps_calls_of_run (Lock.advances_of_hastens prompt))
    past fewer
  obtain ⟨ended, handed, underway⟩ := Lock.handedOver_of_run prompt past fewer
  rw [past] at follows
  obtain ⟨stored, before, following⟩ := (follows_append_iff ..).1 follows
  obtain ⟨between, rushing, after⟩ := (follows_append_iff ..).1 following
  have stale : serve cache.lifetime lock.begun stored = none := by
    rw [Option.eq_none_iff_forall_ne_some]
    intro catalog fresh
    exact nothing catalog ((before.standing_iff _ _).2 fresh)
  have fetches : ∀ turn ∈ turns, turn.call ≠ .invalidate := fun turn among =>
    fetching turn.call (inOrder.subset (List.mem_map_of_mem among))
  have forwards : ∀ turn ∈ turns, turn.first.instant ≤ turn.ended.instant := fun turn among =>
    (chronological.within (show turn ∈ later.past by rw [past]; simp [among])).1
  obtain ⟨rush, loads⟩ := rush_of_handedOver fetches handed rushing lasting stale forwards
  refine ⟨inOrder, rush, ?_⟩
  rintro rfl shorter turn among ⟨catalog, loaded⟩
  obtain ⟨standing, kept⟩ := loads turn among catalog loaded
  obtain rfl : last = between := after
  have begun := underway rfl shorter
  rw [← standing, begun, Lock.begun]
  cases holds : later.holder with
  | none => rfl
  | some holder =>
    obtain ⟨found, stage⟩ := present holder holds
    have same : ended = holder.first.instant := by rw [begun, Lock.begun, holds, Option.elim_some]
    apply instant_eq_of_fresh stage
    rw [found, kept]
    exact serve_eq_some_iff.2 ⟨ended, rfl, by omega⟩

/-- On every run from an empty slot, a call for the catalog is answered without its load exactly
when, at the instant at which it obtains the lock, some load has succeeded, the catalog was not
dropped since the last one that did, and less than a lifetime has passed since that one ended; the
answer is the catalog of that load. Otherwise the load of the call runs once, and if it fails the
slot stays as it is. A call that still holds the lock has its answer, or nothing was there to serve
and its load is running. Turns do not overlap, and the calls keep their order.

Where nothing is there to serve, the calls that have no answer load one after the other until one
load succeeds. The others are served with its catalog, before the clock moves again. -/
theorem turns_follow_last_load :
    (∀ (before : List (cache.Turn ε)) (turn : cache.Turn ε) (after : List (cache.Turn ε)),
      lock.past = before ++ turn :: after →
        (∀ snapshot, turn.found = some snapshot ↔ LastLoaded before snapshot) ∧
        (∀ snapshot, turn.left = some snapshot ↔ LastLoaded (before ++ [turn]) snapshot) ∧
        (turn.call ≠ .invalidate →
          (∀ catalog, turn.Served catalog ↔ Standing before turn.first.instant catalog) ∧
          (((∃ catalog, turn.Loaded catalog) ∨ ∃ failure, turn.Failed failure) ↔
            ∀ catalog, ¬ Standing before turn.first.instant catalog)) ∧
        ∀ failure, turn.Failed failure → turn.left = turn.found) ∧
    (∀ holder, lock.holder = some holder →
      (∃ answer, holder.rest = .done answer) ∨
        (Loading lock.world holder ∧
          ∀ catalog, ¬ Standing lock.past holder.first.instant catalog)) ∧
    (lock.past.Pairwise fun early late => early.ended.instant ≤ late.first.instant) ∧
    (∀ turn ∈ lock.past, turn.first.instant ≤ turn.ended.instant ∧
      ∀ moment ∈ turn.later,
        turn.first.instant ≤ moment.instant ∧ moment.instant ≤ turn.ended.instant) ∧
    (∀ holder, lock.holder = some holder →
      ∀ turn ∈ lock.past, turn.ended.instant ≤ holder.first.instant) ∧
    (∀ later, Relation.ReflTransGen (cache.Advances ε) lock later →
      lock.calls <+: later.calls) ∧
    (0 < cache.lifetime → (∀ call ∈ lock.pending, call ≠ .invalidate) →
      (∀ catalog, ¬ Standing lock.past lock.begun catalog) →
        ∀ later, Relation.ReflTransGen (cache.Hastens ε) lock later →
          ∀ turns others, later.past = lock.past ++ (turns ++ others) →
            turns.length ≤ lock.pending.length →
              turns.map Lock.Turn.call <+: lock.pending ∧ Rush turns ∧
              (others = [] → turns.length < lock.pending.length →
                ∀ turn ∈ turns, (∃ catalog, Turn.Loaded turn catalog) →
                  later.instant = turn.ended.instant)) := by
  have chronological := Lock.chronological_of_run unused run
  obtain ⟨last, follows, now, present⟩ := (sound_of_run lawful unused empty run).exists_follows
  refine ⟨fun before turn after past => ?_, fun holder holds => ?_, chronological.turns,
    fun turn past => chronological.within past,
    fun holder holds turn past => chronological.holder holds past,
    fun later onwards => Lock.keeps_calls_of_run onwards, ?_⟩
  · rw [past] at follows
    obtain ⟨earlier, goes, including⟩ := follows.around
    refine ⟨earlier.lastLoaded_iff, including.lastLoaded_iff, fun fetching => ⟨?_, ?_⟩,
      fun failure failed => left_of_failed goes failed⟩
    · intro catalog
      rw [served_iff goes fetching, earlier.standing_iff]
    · rw [loads_iff goes fetching, Option.eq_none_iff_forall_ne_some]
      simp only [earlier.standing_iff, ne_eq]
  · obtain ⟨found, loading | ⟨answer, finished, -⟩⟩ := present holder holds
    · refine Or.inr ⟨loading, fun catalog standing => ?_⟩
      rw [follows.standing_iff, ← found, loading.stale] at standing
      cases standing
    · exact Or.inl ⟨answer, finished⟩
  · intro lasting fetching nothing later prompt turns others past fewer
    exact rush_of_run lawful unused empty run prompt lasting fetching nothing past fewer

end Runs

/-- A cache that serves a catalog for ten units of time. -/
def brief : CatalogCache (Option Snapshot) :=
  { lifetime := 10, slot := Part.self (Option Snapshot) }

/-- A load that fails, one that succeeds, and one that is not needed any more. -/
def loadsAtOnce :
    List {load : Activity (Option Snapshot) (Except String Catalog) // load.Spares brief.slot} :=
  [⟨.wait ⟨1, 0⟩ (.done (.error "down")), trivial⟩,
    ⟨.wait ⟨2, 0⟩ (.done (.ok ⟨[], [], Registry.empty⟩)), trivial⟩,
    ⟨.wait ⟨3, 0⟩ (.done (.error "down again")), trivial⟩]

/-- Behind a failed load the second call loads, and the third one is served. -/
theorem rush_behind_failed_load :
    ∃ (start lock later : brief.Queue String) (turns : List (brief.Turn String)),
      start.Unused ∧ brief.slot.view start.world = none ∧
      Relation.ReflTransGen (brief.Advances String) start lock ∧ lock.pending.length = 3 ∧
      Relation.ReflTransGen (brief.Hastens String) lock later ∧ later.past = turns ∧
      turns.map Lock.Turn.answer =
        [some (.error "down"), some (.ok ⟨[], [], Registry.empty⟩),
          some (.ok ⟨[], [], Registry.empty⟩)] ∧
      Rush turns := by
  let calls : List (brief.Call String) := loadsAtOnce.map fun load => .fetch load.1 load.2
  let start : brief.Queue String := ⟨0, none, none, [], []⟩
  let lock : brief.Queue String := ⟨0, none, none, calls, []⟩
  have unused : start.Unused := ⟨rfl, rfl, rfl⟩
  have arrived : Relation.ReflTransGen (brief.Advances String) start lock :=
    .tail (.tail (.single (.arrive ..)) (.arrive ..)) (.arrive ..)
  obtain ⟨turns, prompt, answers⟩ := run_of_inTurn loadsAtOnce
    (rfl : (inTurn (loadsAtOnce.map fun load => brief.getOrLoad load.1)).run 0 none = some
      ([.error "down", .ok ⟨[], [], Registry.empty⟩, .ok ⟨[], [], Registry.empty⟩], 2,
        some ⟨2, ⟨[], [], Registry.empty⟩⟩)) []
  have fetching : ∀ call ∈ lock.pending, call ≠ .invalidate := by
    intro call among
    obtain ⟨load, -, rfl⟩ := List.mem_map.1 among
    rintro ⟨⟩
  have nothing : ∀ catalog, ¬ Standing lock.past lock.begun catalog := by
    rintro catalog ⟨loadedAt, ⟨earlier, turn, later, split, -⟩, -⟩
    simp [lock] at split
  have length : turns.length ≤ lock.pending.length := by
    have counted := congrArg List.length answers
    simp only [List.length_map] at counted
    exact Nat.le_of_eq counted
  obtain ⟨-, -, -, -, -, -, atOnce⟩ :=
    turns_follow_last_load (Part.lawful_self _) unused rfl arrived
  obtain ⟨-, rush, -⟩ :=
    atOnce (by decide) fetching nothing _ prompt turns [] (by simp [lock]) length
  exact ⟨start, lock, _, turns, unused, rfl, arrived, rfl, prompt, rfl, answers, rush⟩

end Fleet.CatalogCache
