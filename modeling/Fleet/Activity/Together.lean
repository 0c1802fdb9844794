import Fleet.Activity.Basic

/-!
# Activities side by side

Two activities advance together over one state. Within an instant the left one acts first, until it
sleeps or finishes, and then the right one; the clock then moves to the earlier of the two alarms,
and of two alarms with one place at one instant the left one is served first. `together` waits for
both results and `all` for a whole list of them. `bothOrError` gives up as soon as one side fails,
so that a side that has not started by then never does.
-/

namespace Fleet.Activity

variable {σ ε α β γ : Type}

/-- Advance the right side while the left side sleeps until an alarm. `resume` continues with what
remains of the right side once the left side's alarm rings first, and `leftOnly` is the left side
for when the right side has finished. -/
def besideSleeper
    (alarm : Alarm)
    (resume : Activity σ β → Activity σ γ)
    (leftOnly : β → Activity σ γ)
    (stalled : Activity σ γ) :
    Activity σ β → Activity σ γ
  | done result => leftOnly result
  | step effect next =>
    step effect fun now state => besideSleeper alarm resume leftOnly stalled (next now state)
  | wait other next =>
    if alarm.isDueBy other then
      wait alarm (resume (wait other next))
    else
      wait other (besideSleeper alarm resume leftOnly stalled next)
  | hang => stalled

/-- Two activities side by side; it finishes with both results when the later one finishes. -/
def together : Activity σ α → Activity σ β → Activity σ (α × β)
  | done result, right => right.bind fun other => done (result, other)
  | step effect next, right => step effect fun now state => (next now state).together right
  | wait alarm next, right =>
    besideSleeper alarm (fun remaining => next.together remaining)
      (fun other => wait alarm (next.bind fun result => done (result, other)))
      (wait alarm (next.bind fun _ => hang)) right
  | hang, right => right.bind fun _ => hang

/-- A list of activities side by side; it finishes with their results in the order of the list. -/
def all : List (Activity σ α) → Activity σ (List α)
  | [] => done []
  | activity :: rest =>
    (activity.together (all rest)).bind fun (result, results) => done (result :: results)

/-- An error once a fallible activity has failed; otherwise it never finishes. -/
def onlyError (activity : Activity σ (Except ε α)) : Activity σ (Except ε β) :=
  activity.bind fun
    | .ok _ => hang
    | .error failure => done (.error failure)

/-- Advance the right side while the left side of a fallible pair sleeps until an instant. An error
on the right ends the pair at once. -/
def besideFallible
    (alarm : Alarm)
    (resume : Activity σ (Except ε β) → Activity σ (Except ε γ))
    (leftOnly : β → Activity σ (Except ε γ))
    (stalled : Activity σ (Except ε γ)) :
    Activity σ (Except ε β) → Activity σ (Except ε γ) :=
  besideSleeper alarm resume
    (fun
      | .ok result => leftOnly result
      | .error failure => done (.error failure))
    stalled

/-- Two fallible activities side by side. The first error is the result, at the instant at which it
arises, and what the other side has not done by then is never done. -/
def bothOrError :
    Activity σ (Except ε α) → Activity σ (Except ε β) → Activity σ (Except ε (α × β))
  | done (.error failure), _ => done (.error failure)
  | done (.ok result), right =>
    right.bind fun other => done (other.map fun value => (result, value))
  | step effect next, right => step effect fun now state => (next now state).bothOrError right
  | wait alarm next, right =>
    besideFallible alarm (fun remaining => next.bothOrError remaining)
      (fun other =>
        wait alarm (next.bind fun result => done (result.map fun value => (value, other))))
      (wait alarm next.onlyError) right
  | hang, right => right.onlyError

@[simp]
theorem together_done
    (result : α)
    (right : Activity σ β) :
    (done result).together right = right.bind fun other => done (result, other) := by
  cases right <;> rfl

/-- Nothing runs beside nothing. -/
@[simp]
theorem all_nil : all ([] : List (Activity σ α)) = done [] := rfl

end Fleet.Activity
