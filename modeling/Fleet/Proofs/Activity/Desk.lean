import Fleet.Proofs.Activity.Lock

/-!
# Calls that settle a part of the world when they end

Calls side by side act on one world, and others may act between any two actions of a call. What they
keep in one part of the world they leave alone until they end: a call that settles the part changes
it with its last action only, the one that its answer comes with, and as the answer says.

However the actions of the calls lie between each other, the part is then what the answers make of
it, one after the other in the order in which they were given. No lock is needed for that.
-/

namespace Fleet

variable {σ τ κ δ α β : Type}

namespace Activity

/-- A sequence leaves a part of the world alone when both of its halves do. -/
theorem Spares.bind
    {part : Part σ τ}
    {first : Activity σ α}
    {next : α → Activity σ β}
    (spares : first.Spares part)
    (continued : ∀ result, (next result).Spares part) :
    (first.bind next).Spares part := by
  induction first with
  | done result => exact continued result
  | step effect rest inductionHypothesis =>
    intro now state
    obtain ⟨spared, onwards⟩ := spares now state
    exact ⟨spared, inductionHypothesis now state onwards⟩
  | wait alarm rest inductionHypothesis => exact inductionHypothesis spares
  | hang => trivial

/-- The activity leaves a part of the world alone until its last action, which changes it by a rule
for the result. -/
def Settles (part : Part σ τ) (rule : δ → τ → τ → Prop) : Activity σ δ → Prop
  | done result => ∀ inner, rule result inner inner
  | step effect next => ∀ now state,
    (∃ result, next now state = done result ∧
        rule result (part.view state) (part.view (effect now state))) ∨
      (part.view (effect now state) = part.view state ∧ (next now state).Settles part rule)
  | wait _ next => next.Settles part rule
  | hang => True

/-- Work that spares the part may come before what settles it. -/
theorem Spares.settles
    {part : Part σ τ}
    {rule : δ → τ → τ → Prop}
    {first : Activity σ α}
    {next : α → Activity σ δ}
    (spares : first.Spares part)
    (settles : ∀ result, (next result).Settles part rule) :
    (first.bind next).Settles part rule := by
  induction first with
  | done result => exact settles result
  | step effect rest inductionHypothesis =>
    intro now state
    obtain ⟨spared, onwards⟩ := spares now state
    exact .inr ⟨spared, inductionHypothesis now state onwards⟩
  | wait alarm rest inductionHypothesis => exact inductionHypothesis spares
  | hang => trivial

end Activity

/-- A world with the calls that act on it and the answers that have been given so far. -/
structure Desk (σ δ : Type) where
  world : σ
  /-- What is left of the calls without an answer. -/
  underway : List (Activity σ δ)
  answers : List δ

namespace Desk

/-- A desk with what is left of one more call between the others; it may have its answer. -/
def place
    (world : σ)
    (early late : List (Activity σ δ))
    (answers : List δ) :
    Activity σ δ → Desk σ δ
  | .done answer => ⟨world, early ++ late, answers ++ [answer]⟩
  | rest => ⟨world, early ++ rest :: late, answers⟩

/-- What may happen at a desk whose calls keep something in a part of the world. -/
inductive Moves (work : κ → Activity σ δ) (part : Part σ τ) :
    Desk σ δ → Desk σ δ → Prop where
  /-- A call is made. -/
  | call (world : σ) (underway : List (Activity σ δ)) (answers : List δ) (call : κ) :
    Moves work part ⟨world, underway, answers⟩ (place world underway [] answers (work call))
  /-- A call acts, at whatever instant. -/
  | act (now : Nat) (world : σ) (early late : List (Activity σ δ)) (answers : List δ)
      (effect : Nat → σ → σ) (next : Nat → σ → Activity σ δ) :
    Moves work part ⟨world, early ++ .step effect next :: late, answers⟩
      (place (effect now world) early late answers (next now world))
  /-- An alarm of a call rings. -/
  | wake (world : σ) (early late : List (Activity σ δ)) (answers : List δ) (alarm : Alarm)
      (next : Activity σ δ) :
    Moves work part ⟨world, early ++ .wait alarm next :: late, answers⟩
      (place world early late answers next)
  /-- Others change the world, except for the part. -/
  | other (world changed : σ) (underway : List (Activity σ δ)) (answers : List δ)
      (spared : part.view changed = part.view world) :
    Moves work part ⟨world, underway, answers⟩ ⟨changed, underway, answers⟩

variable {work : κ → Activity σ δ} {part : Part σ τ} {rule : δ → τ → τ → Prop}

/-- A call that nobody disturbs has its answer, and leaves the world as it says. -/
theorem moves_of_run
    {call : κ}
    {now later : Nat}
    {world reached : σ}
    {answer : δ}
    (ran : (work call).run now world = some (answer, later, reached))
    (underway : List (Activity σ δ))
    (answers : List δ) :
    Relation.ReflTransGen (Moves work part) ⟨world, underway, answers⟩
      ⟨reached, underway, answers ++ [answer]⟩ := by
  refine .head (.call world underway answers call) ?_
  generalize work call = rest at ran
  induction rest generalizing now world with
  | done result =>
    cases ran
    rw [place, List.append_nil]
  | step effect next inductionHypothesis =>
    exact .head (.act now world underway [] answers effect next) (inductionHypothesis now world ran)
  | wait alarm next inductionHypothesis =>
    exact .head (.wake world underway [] answers alarm next) (inductionHypothesis ran)
  | hang => cases ran

/-- Either an answer is given and settles the part by its rule, or no answer is given and the part
stays as it is. -/
def Settled
    (part : Part σ τ)
    (rule : δ → τ → τ → Prop)
    (before : τ)
    (answers : List δ)
    (next : Desk σ δ) :
    Prop :=
  (part.view next.world = before ∧ next.answers = answers) ∨
    ∃ answer, next.answers = answers ++ [answer] ∧ rule answer before (part.view next.world)

/-- All that is left of the calls settles the part. -/
def Orderly (part : Part σ τ) (rule : δ → τ → τ → Prop) (desk : Desk σ δ) : Prop :=
  ∀ rest ∈ desk.underway, rest.Settles part rule

section Placed

variable {world : σ} {early late : List (Activity σ δ)} {answers : List δ}

/-- A desk stays orderly when its calls are among those that were underway, and what is left of the
one that has moved settles the part. -/
theorem orderly_of_subset
    {desk : Desk σ δ}
    (orderly : desk.Orderly part rule)
    (fewer : early ++ late ⊆ desk.underway)
    {rest : Activity σ δ}
    (settles : rest.Settles part rule) :
    (place world early late answers rest).Orderly part rule := by
  have others : ∀ other ∈ early ++ late, other.Settles part rule :=
    fun other member => orderly other (fewer member)
  have all : ∀ other ∈ early ++ rest :: late, other.Settles part rule := by
    intro other member
    rcases List.mem_cons.1 (List.perm_middle.mem_iff.1 member) with rfl | among
    · exact settles
    · exact others other among
  cases rest with
  | done answer => exact others
  | step effect next => exact all
  | wait alarm next => exact all
  | hang => exact all

/-- A call that has not changed the part may have its answer. -/
theorem settled_place
    {rest : Activity σ δ}
    (settles : rest.Settles part rule)
    {before : τ}
    (spared : part.view world = before) :
    Settled part rule before answers (place world early late answers rest) := by
  cases rest with
  | done answer =>
    refine .inr ⟨answer, rfl, ?_⟩
    rw [← spared]
    exact settles (part.view world)
  | step effect next => exact .inl ⟨spared, rfl⟩
  | wait alarm next => exact .inl ⟨spared, rfl⟩
  | hang => exact .inl ⟨spared, rfl⟩

end Placed

variable (settles : ∀ call, (work call).Settles part rule) {start desk next : Desk σ δ}

include settles

/-- Whatever happens at a desk, at most one answer is given, and the part follows it. -/
theorem Moves.settled
    (moves : Moves work part desk next)
    (orderly : desk.Orderly part rule) :
    next.Orderly part rule ∧ Settled part rule (part.view desk.world) desk.answers next := by
  cases moves with
  | call world underway answers call =>
    exact ⟨orderly_of_subset orderly (by simp) (settles call), settled_place (settles call) rfl⟩
  | act now world early late answers effect onwards =>
    have fewer : early ++ late ⊆ early ++ .step effect onwards :: late := by simp
    have current := orderly (.step effect onwards) (by simp)
    rcases current now world with ⟨answer, ended, ruled⟩ | ⟨spared, later⟩
    · rw [ended]
      exact ⟨fun other member => orderly other (fewer member), .inr ⟨answer, rfl, ruled⟩⟩
    · exact ⟨orderly_of_subset orderly fewer later, settled_place later spared⟩
  | wake world early late answers alarm onwards =>
    have fewer : early ++ late ⊆ early ++ .wait alarm onwards :: late := by simp
    have later : onwards.Settles part rule := orderly (.wait alarm onwards) (by simp)
    exact ⟨orderly_of_subset orderly fewer later, settled_place later rfl⟩
  | other world changed underway answers spared => exact ⟨orderly, .inl ⟨spared, rfl⟩⟩

omit settles

/-- Answers make one value out of another one, in the order in which they are given. -/
inductive Replays (rule : δ → τ → τ → Prop) (first : τ) : List δ → τ → Prop where
  | nil : Replays rule first [] first
  | snoc {answers : List δ} {inner later : τ} {answer : δ}
      (replays : Replays rule first answers inner) (ruled : rule answer inner later) :
    Replays rule first (answers ++ [answer]) later

include settles

/-- The part of the world is what the answers make of it. -/
theorem replays_of_moves
    {world : σ}
    (run : Relation.ReflTransGen (Moves work part) ⟨world, [], []⟩ desk) :
    desk.Orderly part rule ∧
      Replays rule (part.view world) desk.answers (part.view desk.world) := by
  induction run with
  | refl => exact ⟨by simp [Orderly], .nil⟩
  | tail _ moves inductionHypothesis =>
    obtain ⟨orderly, replays⟩ := inductionHypothesis
    obtain ⟨still, ⟨spared, same⟩ | ⟨answer, given, ruled⟩⟩ :=
      moves.settled settles orderly
    · rw [spared, same]
      exact ⟨still, replays⟩
    · rw [given]
      exact ⟨still, replays.snoc ruled⟩

end Desk

end Fleet
