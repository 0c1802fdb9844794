/-!
# Results

A sequence of calls succeeds as long as each of them does. The parallel calls of a batch give a list
of results, some of them failures. The two kinds are taken apart without losing or doubling any.
-/

namespace Fleet.Results

variable {ε α : Type}

/-- Results are the same when both are values or both are failures, and these are the same. -/
instance decidableEq [DecidableEq ε] [DecidableEq α] : DecidableEq (Except ε α)
  | .ok left, .ok right => decidable_of_iff (left = right) (by simp)
  | .error left, .error right => decidable_of_iff (left = right) (by simp)
  | .ok _, .error _ => isFalse nofun
  | .error _, .ok _ => isFalse nofun

/-- A sequence that succeeds has succeeded in its first part. -/
theorem exists_of_bind_eq_ok
    {β : Type}
    {first : Except ε α}
    {next : α → Except ε β}
    {result : β}
    (succeeded : (first >>= next) = .ok result) :
    ∃ value, first = .ok value ∧ next value = .ok result := by
  cases first with
  | error failure => cases succeeded
  | ok value => exact ⟨value, rfl, succeeded⟩

/-- Checks that succeed one after the other succeed each by itself. -/
theorem eq_ok_of_forM
    {items : List α}
    {check : α → Except ε Unit}
    (succeeded : items.forM check = .ok ()) :
    ∀ item ∈ items, check item = .ok () := by
  induction items with
  | nil =>
    intro item member
    cases member
  | cons first rest inductionHypothesis =>
    have inTurn : (check first >>= fun _ => rest.forM check) = .ok () := succeeded
    rcases exists_of_bind_eq_ok inTurn with ⟨_, checked, others⟩
    intro item member
    rcases List.mem_cons.1 member with rfl | later
    · exact checked
    · exact inductionHypothesis others item later

/-- Checks that succeed each by itself succeed one after the other. -/
theorem forM_eq_ok
    {items : List α}
    {check : α → Except ε Unit}
    (succeeds : ∀ item ∈ items, check item = .ok ()) :
    items.forM check = .ok () := by
  induction items with
  | nil => rfl
  | cons first rest inductionHypothesis =>
    show (check first >>= fun _ => rest.forM check) = .ok ()
    rw [succeeds first List.mem_cons_self]
    exact inductionHypothesis fun item member => succeeds item (List.mem_cons_of_mem _ member)

/-- The values among results, in order. -/
def values (results : List (Except ε α)) : List α :=
  results.filterMap fun
    | .ok value => some value
    | .error _ => none

/-- The failures among results, in order. -/
def failures (results : List (Except ε α)) : List ε :=
  results.filterMap fun
    | .ok _ => none
    | .error failure => some failure

@[simp]
theorem values_nil : values ([] : List (Except ε α)) = [] := rfl

@[simp]
theorem values_ok_cons
    (value : α)
    (rest : List (Except ε α)) :
    values (.ok value :: rest) = value :: values rest := rfl

@[simp]
theorem values_error_cons
    (failure : ε)
    (rest : List (Except ε α)) :
    values (.error failure :: rest) = values rest := rfl

@[simp]
theorem failures_nil : failures ([] : List (Except ε α)) = [] := rfl

@[simp]
theorem failures_ok_cons
    (value : α)
    (rest : List (Except ε α)) :
    failures (.ok value :: rest) = failures rest := rfl

@[simp]
theorem failures_error_cons
    (failure : ε)
    (rest : List (Except ε α)) :
    failures (.error failure :: rest) = failure :: failures rest := rfl

@[simp]
theorem values_append (first second : List (Except ε α)) :
    values (first ++ second) = values first ++ values second :=
  List.filterMap_append

@[simp]
theorem failures_append (first second : List (Except ε α)) :
    failures (first ++ second) = failures first ++ failures second :=
  List.filterMap_append

@[simp]
theorem values_replicate_error
    (count : Nat)
    (failure : ε) :
    values (List.replicate count (.error failure : Except ε α)) = [] :=
  List.filterMap_replicate_of_none rfl

@[simp]
theorem failures_replicate_error
    (count : Nat)
    (failure : ε) :
    failures (List.replicate count (.error failure : Except ε α)) =
      List.replicate count failure :=
  List.filterMap_replicate_of_some rfl

section Map

variable {β : Type}

@[simp]
theorem values_map_ok
    (function : β → α)
    (list : List β) :
    values (list.map fun item => (.ok (function item) : Except ε α)) = list.map function := by
  induction list with
  | nil => rfl
  | cons item rest inductionHypothesis => simp [inductionHypothesis]

@[simp]
theorem failures_map_ok
    (function : β → α)
    (list : List β) :
    failures (list.map fun item => (.ok (function item) : Except ε α)) = [] := by
  induction list with
  | nil => rfl
  | cons item rest inductionHypothesis => simp [inductionHypothesis]

@[simp]
theorem values_map_error
    (function : β → ε)
    (list : List β) :
    values (list.map fun item => (.error (function item) : Except ε α)) = [] := by
  induction list with
  | nil => rfl
  | cons item rest inductionHypothesis => simp [inductionHypothesis]

@[simp]
theorem failures_map_error
    (function : β → ε)
    (list : List β) :
    failures (list.map fun item => (.error (function item) : Except ε α)) =
      list.map function := by
  induction list with
  | nil => rfl
  | cons item rest inductionHypothesis => simp [inductionHypothesis]

end Map

theorem mem_values_iff
    {results : List (Except ε α)}
    {value : α} :
    value ∈ values results ↔ .ok value ∈ results := by
  induction results with
  | nil => simp
  | cons result rest inductionHypothesis => cases result <;> simp [inductionHypothesis]

theorem mem_failures_iff
    {results : List (Except ε α)}
    {failure : ε} :
    failure ∈ failures results ↔ .error failure ∈ results := by
  induction results with
  | nil => simp
  | cons result rest inductionHypothesis => cases result <;> simp [inductionHypothesis]

/-- Every result is either a value or a failure. -/
theorem length_values_add_length_failures (results : List (Except ε α)) :
    (values results).length + (failures results).length = results.length := by
  induction results with
  | nil => rfl
  | cons result rest inductionHypothesis => cases result <;> simp <;> omega

end Fleet.Results
