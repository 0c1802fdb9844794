import Fleet.Json.Fields
import Fleet.Retry.Attempts
import Fleet.Retry.Poll

/-!
# Documents of times

A duration is written as its number of milliseconds when that is whole and fits a word, else as
seconds with nine decimal places. It is read from a number of milliseconds, from an object with
seconds or nanoseconds, or from a word that stands for the longest duration.
-/

namespace Fleet

/-- The duration that a document writes. -/
def Duration.ofJson : Json → Nat
  | .integer count => Duration.ofMilliseconds count.toNat
  | .text _ => Duration.longest
  | json =>
    match json.at? "secs" with
    | some seconds => Duration.ofSeconds seconds.asNat
    | none => json.natAt "ns" 0

/-- The document of a duration. -/
def Duration.toJson (duration : Nat) : Json :=
  if duration % Duration.millisecond = 0 && duration / Duration.millisecond ≤ Text.largest64 then
    Json.ofNat (duration / Duration.millisecond)
  else
    .text (toString (duration / Duration.second) ++ "." ++
      Text.padded 9 (duration % Duration.second))

/-- The duration in a field, or else the given one. -/
def Json.durationAt (json : Json) (name : String) (fallback : Nat) : Nat :=
  ((json.at? name).map Duration.ofJson).getD fallback

/-- The poll policy of a document: a number of attempts or a budget, and a period. -/
def PollPolicy.ofJson (json : Json) : PollPolicy :=
  let period := json.durationAt "period" 0
  match json.at? "attempts" with
  | some attempts => PollPolicy.ofAttempts attempts.asNat period
  | none => { budget := json.durationAt "max" 0, period := period }

/-- The poll policy in a field, or else the given one. -/
def Json.pollPolicyAt (json : Json) (name : String) (fallback : PollPolicy) : PollPolicy :=
  ((json.at? name).map PollPolicy.ofJson).getD fallback

/-- The attempt policy of a document. -/
def AttemptPolicy.ofJson (json : Json) : AttemptPolicy :=
  AttemptPolicy.ofAttempts (json.natAt "attempts" 0) (json.durationAt "backoff" 0)

/-- The attempt policy in a field, or else the given one. -/
def Json.attemptPolicyAt
    (json : Json)
    (name : String)
    (fallback : AttemptPolicy) :
    AttemptPolicy :=
  ((json.at? name).map AttemptPolicy.ofJson).getD fallback

end Fleet
