import Fleet.Proofs.Activity.Moment
import Mathlib.Logic.Relation

/-!
# Calls in turn

Calls that need the same part of the world wait for its lock and hold it one at a time, in the order
in which they arrived. A call begins with a look at the world when it obtains the lock, goes on as
its activity says, and gives the lock back with its answer. The clock may move while the holder
sleeps, and while nobody holds the lock. Meanwhile others may change the world, though not the part
that the lock guards.

Whatever happens, the calls keep their places, and the turns do not overlap: what is met in one of
them is met before the next one begins. When the lock is handed on at once, the clock does not move
between the turns of calls that wait already.
-/

namespace Fleet

variable {σ τ κ α : Type}

namespace Activity

/-- The activity waits for an alarm, or it has got stuck. -/
def Asleep : Activity σ α → Prop
  | done _ => False
  | step _ _ => False
  | wait _ _ => True
  | hang => True

/-- No step of the activity changes a part of the world. -/
def Spares (part : Part σ τ) : Activity σ α → Prop
  | done _ => True
  | step effect next => ∀ now state,
    part.view (effect now state) = part.view state ∧ (next now state).Spares part
  | wait _ next => next.Spares part
  | hang => True

end Activity

namespace Lock

/-- A call that holds the lock. -/
structure Holder (σ κ α : Type) where
  call : κ
  /-- What it met when it obtained the lock. -/
  first : Moment σ
  /-- What it has met since. -/
  later : List (Moment σ)
  /-- What is left of it. -/
  rest : Activity σ α

/-- A call that has been answered. -/
structure Turn (σ κ α : Type) where
  call : κ
  /-- What it met when it obtained the lock. -/
  first : Moment σ
  /-- What it met after that. -/
  later : List (Moment σ)
  /-- The instant and the world when it gave the lock back. -/
  ended : Moment σ
  answer : α

end Lock

open Lock (Holder Turn)

/-- A lock at an instant in a world, with the calls that wait for it and those that have had their
turn. -/
structure Lock (σ κ α : Type) where
  instant : Nat
  world : σ
  holder : Option (Holder σ κ α)
  waiting : List κ
  past : List (Turn σ κ α)

namespace Lock

/-- What may happen around a lock that guards a part of the world. -/
inductive Advances (work : κ → Activity σ α) (guarded : Part σ τ) :
    Lock σ κ α → Lock σ κ α → Prop where
  /-- A call is made. -/
  | arrive (instant : Nat) (world : σ) (holder : Option (Holder σ κ α)) (waiting : List κ)
      (past : List (Turn σ κ α)) (call : κ) :
    Advances work guarded ⟨instant, world, holder, waiting, past⟩
      ⟨instant, world, holder, waiting ++ [call], past⟩
  /-- The call that has waited longest obtains the lock and looks at the world. -/
  | obtain (instant : Nat) (world : σ) (call : κ) (waiting : List κ)
      (past : List (Turn σ κ α))
      (effect : Nat → σ → σ) (next : Nat → σ → Activity σ α)
      (begins : work call = .step effect next) :
    Advances work guarded ⟨instant, world, none, call :: waiting, past⟩
      ⟨instant, effect instant world,
        some ⟨call, ⟨instant, world⟩, [], next instant world⟩, waiting, past⟩
  /-- The holder acts. -/
  | act (instant : Nat) (world : σ) (call : κ) (first : Moment σ) (later : List (Moment σ))
      (effect : Nat → σ → σ) (next : Nat → σ → Activity σ α) (waiting : List κ)
      (past : List (Turn σ κ α)) :
    Advances work guarded
      ⟨instant, world, some ⟨call, first, later, .step effect next⟩, waiting, past⟩
      ⟨instant, effect instant world,
        some ⟨call, first, later ++ [⟨instant, world⟩], next instant world⟩,
        waiting, past⟩
  /-- An alarm of the holder has rung. -/
  | wake (instant : Nat) (world : σ) (call : κ) (first : Moment σ) (later : List (Moment σ))
      (alarm : Alarm) (next : Activity σ α) (waiting : List κ) (past : List (Turn σ κ α))
      (rung : alarm.instant ≤ instant) :
    Advances work guarded
      ⟨instant, world, some ⟨call, first, later, .wait alarm next⟩, waiting, past⟩
      ⟨instant, world, some ⟨call, first, later, next⟩, waiting, past⟩
  /-- The holder has its answer and gives the lock back. -/
  | leave (instant : Nat) (world : σ) (call : κ) (first : Moment σ) (later : List (Moment σ))
      (answer : α) (waiting : List κ) (past : List (Turn σ κ α)) :
    Advances work guarded
      ⟨instant, world, some ⟨call, first, later, .done answer⟩, waiting, past⟩
      ⟨instant, world, none, waiting,
        past ++ [⟨call, first, later, ⟨instant, world⟩, answer⟩]⟩
  /-- Time passes. -/
  | pass (instant onwards : Nat) (world : σ) (holder : Option (Holder σ κ α))
      (waiting : List κ)
      (past : List (Turn σ κ α)) (ahead : instant ≤ onwards)
      (asleep : ∀ held, holder = some held → held.rest.Asleep) :
    Advances work guarded ⟨instant, world, holder, waiting, past⟩
      ⟨onwards, world, holder, waiting, past⟩
  /-- Others change the world, except for the guarded part. -/
  | other (instant : Nat) (world changed : σ) (holder : Option (Holder σ κ α))
      (waiting : List κ)
      (past : List (Turn σ κ α)) (spared : guarded.view changed = guarded.view world) :
    Advances work guarded ⟨instant, world, holder, waiting, past⟩
      ⟨instant, changed, holder, waiting, past⟩

/-- The lock is handed on at once: no time passes while it is free and somebody waits for it. -/
def Hastens (work : κ → Activity σ α) (guarded : Part σ τ) (lock next : Lock σ κ α) :
    Prop :=
  Advances work guarded lock next ∧
    (lock.holder = none → lock.waiting ≠ [] → next.instant = lock.instant)

/-- Nobody has called yet. -/
structure Unused (lock : Lock σ κ α) : Prop where
  free : lock.holder = none
  nobodyWaits : lock.waiting = []
  nothingPast : lock.past = []

variable {work : κ → Activity σ α} {guarded : Part σ τ} {start lock next : Lock σ κ α}

/-! ## The order of calls -/

/-- The calls without an answer in the order in which they were made. -/
def pending (lock : Lock σ κ α) : List κ :=
  lock.holder.toList.map Holder.call ++ lock.waiting

/-- All calls in the order in which they were made. -/
def calls (lock : Lock σ κ α) : List κ :=
  lock.past.map Turn.call ++ lock.pending

/-- Every call keeps its place. -/
theorem Advances.keeps_calls (advances : Advances work guarded lock next) :
    lock.calls <+: next.calls := by
  cases advances with
  | arrive instant world holder waiting past call => exact ⟨[call], by simp [calls, pending]⟩
  | obtain | act | wake | leave | pass | other => simp [calls, pending]

theorem keeps_calls_of_run (run : Relation.ReflTransGen (Advances work guarded) start lock) :
    start.calls <+: lock.calls := by
  induction run with
  | refl => exact List.prefix_rfl
  | tail _ advances inductionHypothesis => exact inductionHypothesis.trans advances.keeps_calls

theorem Advances.keeps_past (advances : Advances work guarded lock next) :
    lock.past <+: next.past := by
  cases advances with
  | leave => exact List.prefix_append ..
  | arrive | obtain | act | wake | pass | other => exact List.prefix_rfl

/-! ## The order of time -/

/-- The instants of a turn in their order. -/
def Turn.instants (turn : Turn σ κ α) : List Nat :=
  turn.first.instant :: (turn.later.map Moment.instant ++ [turn.ended.instant])

/-- The instants of the turn so far. -/
def Holder.instants (holder : Holder σ κ α) : List Nat :=
  holder.first.instant :: holder.later.map Moment.instant

/-- All instants at which something was met, by turns. -/
def record (lock : Lock σ κ α) : List Nat :=
  lock.past.flatMap Turn.instants ++ lock.holder.toList.flatMap Holder.instants

/-- Time has never gone back. -/
structure Chronological (lock : Lock σ κ α) : Prop where
  ascending : lock.record.Pairwise fun early late => early ≤ late
  bounded : ∀ instant ∈ lock.record, instant ≤ lock.instant

/-- What is met is met now. -/
theorem Advances.record (advances : Advances work guarded lock next) :
    lock.instant ≤ next.instant ∧
      (next.record = lock.record ∨ next.record = lock.record ++ [lock.instant]) := by
  cases advances with
  | arrive | wake | other => exact ⟨Nat.le_refl _, Or.inl rfl⟩
  | pass instant onwards world holder waiting past ahead asleep => exact ⟨ahead, Or.inl rfl⟩
  | obtain | act | leave =>
    refine ⟨Nat.le_refl _, Or.inr ?_⟩
    simp [Lock.record, Turn.instants, Holder.instants]

theorem Unused.chronological (unused : lock.Unused) : lock.Chronological := by
  have nothing : lock.record = [] := by simp [record, unused.free, unused.nothingPast]
  exact ⟨by simp [nothing], by simp [nothing]⟩

/-- No time goes back, whatever happens around a lock. -/
theorem Advances.chronological
    (advances : Advances work guarded lock next)
    (chronological : lock.Chronological) :
    next.Chronological := by
  obtain ⟨ahead, same | longer⟩ := advances.record
  · refine ⟨same ▸ chronological.ascending, fun instant met => ?_⟩
    exact Nat.le_trans (chronological.bounded instant (same ▸ met)) ahead
  · constructor
    · rw [longer, List.pairwise_append]
      refine ⟨chronological.ascending, List.pairwise_singleton ..,
        fun early met late last => ?_⟩
      rw [List.mem_singleton.1 last]
      exact chronological.bounded early met
    · rw [longer]
      intro instant met
      rcases List.mem_append.1 met with before | last
      · exact Nat.le_trans (chronological.bounded instant before) ahead
      · rw [List.mem_singleton.1 last]
        exact ahead

theorem chronological_of_run
    (unused : start.Unused)
    (run : Relation.ReflTransGen (Advances work guarded) start lock) :
    lock.Chronological := by
  induction run with
  | refl => exact unused.chronological
  | tail _ advances inductionHypothesis => exact advances.chronological inductionHypothesis

namespace Chronological

variable (chronological : lock.Chronological)

include chronological

/-- A turn ends before the next one begins. -/
theorem turns : lock.past.Pairwise fun early late =>
    early.ended.instant ≤ late.first.instant := by
  have ascending := (List.pairwise_append.1 chronological.ascending).1
  refine (List.pairwise_flatMap.1 ascending).2.imp fun ordered => ?_
  exact ordered _ (by simp [Turn.instants]) _ (by simp [Turn.instants])

/-- Every moment of a turn falls between its first one and its end. -/
theorem within
    {turn : Turn σ κ α}
    (past : turn ∈ lock.past) :
    turn.first.instant ≤ turn.ended.instant ∧
      ∀ moment ∈ turn.later,
        turn.first.instant ≤ moment.instant ∧ moment.instant ≤ turn.ended.instant := by
  have ascending := (List.pairwise_append.1 chronological.ascending).1
  have instants := (List.pairwise_flatMap.1 ascending).1 turn past
  obtain ⟨afterFirst, rest⟩ := List.pairwise_cons.1 instants
  obtain ⟨-, -, beforeEnd⟩ := List.pairwise_append.1 rest
  refine ⟨afterFirst _ (by simp), fun moment met =>
    ⟨afterFirst _ ?_, beforeEnd _ ?_ _ (by simp)⟩⟩
  · exact List.mem_append_left _ (List.mem_map_of_mem met)
  · exact List.mem_map_of_mem met

/-- The holder has begun when all turns had ended. -/
theorem holder
    {held : Holder σ κ α}
    (holds : lock.holder = some held)
    {turn : Turn σ κ α}
    (past : turn ∈ lock.past) :
    turn.ended.instant ≤ held.first.instant := by
  obtain ⟨-, -, across⟩ := List.pairwise_append.1 chronological.ascending
  refine across _ (List.mem_flatMap.2 ⟨turn, past, by simp [Turn.instants]⟩) _ ?_
  exact List.mem_flatMap.2 ⟨held, by simp [holds], List.mem_cons_self⟩

end Chronological

/-! ## Turns without a break -/

/-- The first of these turns begins at one instant, each begins when the one before it ends, and the
last one ends at the other instant. -/
def HandedOver : Nat → List (Turn σ κ α) → Nat → Prop
  | begun, [], ended => ended = begun
  | begun, turn :: rest, ended =>
    turn.first.instant = begun ∧ HandedOver turn.ended.instant rest ended

theorem handedOver_append_iff
    (early late : List (Turn σ κ α))
    (begun ended : Nat) :
    HandedOver begun (early ++ late) ended ↔
      ∃ between, HandedOver begun early between ∧ HandedOver between late ended := by
  induction early generalizing begun with
  | nil => simp [HandedOver]
  | cons turn rest inductionHypothesis => simp [HandedOver, inductionHypothesis, and_assoc]

/-- When the present turn began; when nobody has the lock, the next one could begin now. -/
def begun (lock : Lock σ κ α) : Nat :=
  lock.holder.elim lock.instant fun holder => holder.first.instant

/-- The calls that had no answer at the start have their turns without a break, and as long as not
all of them have an answer, the present turn is one of these. -/
inductive InLine (start lock : Lock σ κ α) : Prop where
  | underway (turns : List (Turn σ κ α)) (past : lock.past = start.past ++ turns)
      (fewer : turns.length < start.pending.length)
      (handed : HandedOver start.begun turns lock.begun)
  | through (turns others : List (Turn σ κ α)) (now : Nat)
      (past : lock.past = start.past ++ (turns ++ others))
      (all : turns.length = start.pending.length) (handed : HandedOver start.begun turns now)

theorem inLine_self (start : Lock σ κ α) : InLine start start := by
  by_cases nobody : start.pending = []
  · exact .through [] [] start.begun (by simp) (by simp [nobody]) rfl
  · exact .underway [] (by simp) (List.length_pos_iff.2 nobody) rfl

/-- As long as not all of them had their turn, one of them holds the lock or waits. -/
theorem waiting_ne_nil
    {turns : List (Turn σ κ α)}
    (kept : start.calls <+: lock.calls)
    (past : lock.past = start.past ++ turns)
    (fewer : turns.length < start.pending.length)
    (free : lock.holder = none) :
    lock.waiting ≠ [] := by
  intro nobody
  have shorter := kept.length_le
  have none : lock.pending = [] := by simp [pending, free, nobody]
  simp only [calls, past, none, List.length_append, List.length_map, List.length_nil] at shorter
  omega

/-- When a free lock is never left alone, the calls in line have their turns without a break: a
holder began before, and while the lock is free one of the calls waits for it. -/
theorem Hastens.inLine
    (hastens : Hastens work guarded lock next)
    (kept : start.calls <+: lock.calls)
    (inLine : InLine start lock) :
    InLine start next := by
  cases inLine with
  | through turns others now past all handed =>
    obtain ⟨more, longer⟩ := hastens.1.keeps_past
    exact .through turns (others ++ more) now (by rw [← longer, past]; simp) all handed
  | underway turns past fewer handed =>
    have waits := waiting_ne_nil kept past fewer
    obtain ⟨advances, prompt⟩ := hastens
    cases advances with
    | arrive | other | obtain | act | wake => exact .underway turns past fewer handed
    | pass instant onwards world holder waiting past ahead asleep =>
      refine .underway turns past fewer ?_
      cases holder with
      | none =>
        obtain rfl : onwards = instant := prompt rfl (waits rfl)
        exact handed
      | some held => exact handed
    | leave instant world call first later answer waiting earlier =>
      obtain rfl : earlier = start.past ++ turns := past
      have longer : HandedOver start.begun
          (turns ++ [⟨call, first, later, ⟨instant, world⟩, answer⟩]) instant :=
        (handedOver_append_iff ..).2 ⟨first.instant, handed, rfl, rfl⟩
      by_cases more : turns.length + 1 < start.pending.length
      · exact .underway _ (List.append_assoc ..) (by simpa using more) longer
      · refine .through _ [] instant (by simp) ?_ longer
        rw [List.length_append, List.length_singleton]
        exact Nat.le_antisymm fewer (Nat.le_of_not_lt more)

theorem advances_of_hastens (run : Relation.ReflTransGen (Hastens work guarded) start lock) :
    Relation.ReflTransGen (Advances work guarded) start lock :=
  run.lift id fun _ _ hastens => hastens.1

theorem inLine_of_run (run : Relation.ReflTransGen (Hastens work guarded) start lock) :
    InLine start lock := by
  induction run with
  | refl => exact inLine_self start
  | tail earlier hastens inductionHypothesis =>
    exact hastens.inLine (keeps_calls_of_run (advances_of_hastens earlier)) inductionHypothesis

/-- The first new turns are those of the calls that had no answer at the start. -/
theorem calls_of_turns
    {turns others : List (Turn σ κ α)}
    (kept : start.calls <+: lock.calls)
    (past : lock.past = start.past ++ (turns ++ others))
    (fewer : turns.length ≤ start.pending.length) :
    turns.map Turn.call <+: start.pending := by
  rw [calls, calls, past, List.map_append, List.append_assoc, List.prefix_append_right_inj] at kept
  refine List.prefix_of_prefix_length_le ?_ kept (by simpa using fewer)
  rw [List.map_append, List.append_assoc]
  exact List.prefix_append ..

/-- The turns of the calls that had no answer at the start follow each other without a break, and as
long as some of these calls have no answer, so does the present turn. -/
theorem handedOver_of_run
    (run : Relation.ReflTransGen (Hastens work guarded) start lock)
    {turns others : List (Turn σ κ α)}
    (past : lock.past = start.past ++ (turns ++ others))
    (fewer : turns.length ≤ start.pending.length) :
    ∃ now, HandedOver start.begun turns now ∧
      (others = [] → turns.length < start.pending.length → now = lock.begun) := by
  cases inLine_of_run run with
  | underway handedTurns handedPast fewerHanded handed =>
    obtain rfl : turns ++ others = handedTurns :=
      List.append_cancel_left (past.symm.trans handedPast)
    obtain ⟨now, first, second⟩ := (handedOver_append_iff ..).1 handed
    refine ⟨now, first, ?_⟩
    rintro rfl -
    exact second.symm
  | through handedTurns handedOthers now handedPast all handed =>
    have same : turns ++ others = handedTurns ++ handedOthers :=
      List.append_cancel_left (past.symm.trans handedPast)
    obtain ⟨rest, rfl⟩ : turns <+: handedTurns :=
      List.prefix_of_prefix_length_le (same ▸ List.prefix_append ..) (List.prefix_append ..)
        (all ▸ fewer)
    obtain ⟨between, first, -⟩ := (handedOver_append_iff ..).1 handed
    refine ⟨between, first, ?_⟩
    rintro rfl shorter
    have longer := congrArg List.length same
    simp only [List.length_append, List.append_nil] at longer all
    omega

/-! ## Calls that have the lock to themselves -/

/-- The holder goes on as its activity runs by itself, and gives the lock back in the end. -/
theorem run_of_holder
    (call : κ)
    (first : Moment σ)
    {rest : Activity σ α}
    {instant ended : Nat}
    {world reached : σ}
    {answer : α}
    (finished : rest.run instant world = some (answer, ended, reached))
    (later : List (Moment σ))
    (waiting : List κ)
    (past : List (Turn σ κ α)) :
    ∃ met, Relation.ReflTransGen (Hastens work guarded)
      ⟨instant, world, some ⟨call, first, later, rest⟩, waiting, past⟩
      ⟨ended, reached, none, waiting,
        past ++ [⟨call, first, met, ⟨ended, reached⟩, answer⟩]⟩ := by
  induction rest generalizing instant world later with
  | done result =>
    cases finished
    exact ⟨later, .single ⟨.leave .., fun free => by cases free⟩⟩
  | step effect next inductionHypothesis =>
    obtain ⟨met, onwards⟩ := inductionHypothesis _ _ finished (later ++ [⟨instant, world⟩])
    exact ⟨met, .head ⟨.act .., fun free => by cases free⟩ onwards⟩
  | wait alarm next inductionHypothesis =>
    obtain ⟨met, onwards⟩ := inductionHypothesis finished later
    have asleep : ∀ held,
        some (⟨call, first, later, .wait alarm next⟩ : Holder σ κ α) = some held →
        held.rest.Asleep := by
      rintro held ⟨⟩
      trivial
    exact ⟨met, .head ⟨.pass _ _ _ _ _ _ (Nat.le_max_left ..) asleep,
      fun free => by cases free⟩
      (.head ⟨.wake _ _ _ _ _ _ _ _ _ (Nat.le_max_right ..),
        fun free => by cases free⟩ onwards)⟩
  | hang => cases finished

/-- A call that begins with a step has its turn as it runs by itself. -/
theorem run_of_call
    {call : κ}
    {effect : Nat → σ → σ}
    {next : Nat → σ → Activity σ α}
    (begins : work call = .step effect next)
    {instant ended : Nat}
    {world reached : σ}
    {answer : α}
    (finished : (work call).run instant world = some (answer, ended, reached))
    (waiting : List κ)
    (past : List (Turn σ κ α)) :
    ∃ met, Relation.ReflTransGen (Hastens work guarded)
      ⟨instant, world, none, call :: waiting, past⟩
      ⟨ended, reached, none, waiting,
        past ++ [⟨call, ⟨instant, world⟩, met, ⟨ended, reached⟩, answer⟩]⟩ := by
  rw [begins] at finished
  have acted : (next instant world).run instant (effect instant world) =
      some (answer, ended, reached) := finished
  obtain ⟨met, onwards⟩ := run_of_holder call ⟨instant, world⟩ acted [] waiting past
  exact ⟨met, .head ⟨.obtain _ _ _ _ _ _ _ begins, fun _ _ => rfl⟩ onwards⟩

end Lock

end Fleet
