import Fleet.Duration

/-!
# The clock

Instants are counted in nanoseconds from the start of the clock. A timer rings on a whole
millisecond, never before the instant it was set for. No sleep lasts longer than thirty years; a
longer one ends then. The clock itself ends with the largest second of a signed word of 64 bits: an
instant past that end does not exist, and a deadline set for one falls thirty years from now.
-/

namespace Fleet.Clock

/-- The last second that the clock can represent. -/
def lastSecond : Nat := Text.largestSigned64

/-- The longest sleep, and the distance of a deadline that the clock cannot represent. -/
def farFuture : Nat := Duration.ofSeconds (30 * 365 * 86400)

/-- The first whole millisecond at or after an instant. -/
def roundUp (instant : Nat) : Nat :=
  (instant + (Duration.millisecond - 1)) / Duration.millisecond * Duration.millisecond

/-- The instant after a length of time, when the clock can represent it. -/
def later (now duration : Nat) : Option Nat :=
  if (now + duration) / Duration.second ≤ lastSecond then some (now + duration) else none

/-- The instant at which a deadline falls that is a length of time away. -/
def ring (now duration : Nat) : Nat :=
  roundUp ((later now duration).getD (now + farFuture))

/-- How long a sleep lasts that is asked to last a length of time. -/
def slept (duration : Nat) : Nat :=
  min duration farFuture

/-- The instant at which a sleep of a length of time ends. -/
def wake (now duration : Nat) : Nat :=
  roundUp (now + slept duration)

/-- A sleep of at most thirty years lasts as long as it is asked to. -/
theorem slept_eq
    {duration : Nat}
    (short : duration ≤ farFuture) :
    slept duration = duration :=
  Nat.min_eq_left short

/-- No timer rings early. -/
theorem le_roundUp (instant : Nat) : instant ≤ roundUp instant := by
  simp only [roundUp, Duration.millisecond]
  omega

/-- A timer rings less than a millisecond late. -/
theorem roundUp_lt (instant : Nat) : roundUp instant < instant + Duration.millisecond := by
  simp only [roundUp, Duration.millisecond]
  omega

/-- An instant on a whole millisecond stays where it is. -/
theorem roundUp_eq
    {instant : Nat}
    (whole : Duration.millisecond ∣ instant) :
    roundUp instant = instant := by
  obtain ⟨count, rfl⟩ := whole
  simp only [roundUp, Duration.millisecond]
  omega

/-- A later instant is never rounded to an earlier one. -/
theorem roundUp_mono
    {first second : Nat}
    (ordered : first ≤ second) :
    roundUp first ≤ roundUp second :=
  Nat.mul_le_mul_right _ (Nat.div_le_div_right (Nat.add_le_add_right ordered _))

theorem dvd_roundUp (instant : Nat) : Duration.millisecond ∣ roundUp instant :=
  Nat.dvd_mul_left ..

theorem eq_of_later
    {now duration instant : Nat}
    (represented : later now duration = some instant) :
    instant = now + duration := by
  rw [later] at represented
  split at represented
  · exact (Option.some.inj represented).symm
  · cases represented

theorem ring_of_later
    {now duration instant : Nat}
    (represented : later now duration = some instant) :
    ring now duration = roundUp instant := by
  simp [ring, represented]

/-- A deadline does not fall into the past. -/
theorem le_ring (now duration : Nat) : now ≤ ring now duration := by
  have ahead : now ≤ (later now duration).getD (now + farFuture) := by
    rw [later]
    split <;> exact Nat.le_add_right ..
  exact Nat.le_trans ahead (le_roundUp _)

/-- The longest sleep is a whole number of milliseconds, so a sleep that is asked to last one
does. -/
theorem dvd_slept
    {duration : Nat}
    (whole : Duration.millisecond ∣ duration) :
    Duration.millisecond ∣ slept duration := by
  rw [slept]
  rcases Nat.le_total duration farFuture with short | long
  · rwa [Nat.min_eq_left short]
  · rw [Nat.min_eq_right long]
    decide

theorem slept_pos
    {duration : Nat}
    (positive : 0 < duration) :
    0 < slept duration :=
  Nat.lt_min.2 ⟨positive, by decide⟩

/-- A sleep takes time. -/
theorem lt_wake
    (now : Nat)
    {duration : Nat}
    (positive : 0 < duration) :
    now < wake now duration :=
  Nat.lt_of_lt_of_le (Nat.lt_add_of_pos_right (slept_pos positive)) (le_roundUp _)

theorem le_wake (now duration : Nat) : now ≤ wake now duration :=
  Nat.le_trans (Nat.le_add_right _ _) (le_roundUp _)

/-- On whole milliseconds a sleep ends exactly when it should. -/
theorem wake_eq
    {now duration : Nat}
    (wholeNow : Duration.millisecond ∣ now)
    (whole : Duration.millisecond ∣ duration) :
    wake now duration = now + slept duration :=
  roundUp_eq (Nat.dvd_add wholeNow (dvd_slept whole))

/-- Off the whole milliseconds, a sleep of whole milliseconds begins with the next one. -/
theorem wake_eq_roundUp
    (now : Nat)
    {duration : Nat}
    (whole : Duration.millisecond ∣ duration) :
    wake now duration = roundUp now + slept duration := by
  obtain ⟨count, slept⟩ := dvd_slept whole
  simp only [wake, roundUp, slept, Duration.millisecond]
  omega

/-- The end of a millisecond lies after every instant within it. -/
theorem lt_roundUp
    {instant : Nat}
    (within : ¬ Duration.millisecond ∣ instant) :
    instant < roundUp instant := by
  refine Nat.lt_of_le_of_ne (le_roundUp instant) fun same => within ?_
  rw [same]
  exact dvd_roundUp instant

/-- The instants at which the clock can stand. It starts at zero, and then nothing but a timer moves
it: the end of a sleep, or a deadline. -/
inductive Stands : Nat → Prop where
  | start : Stands 0
  | slept {now : Nat} (stands : Stands now) (duration : Nat) : Stands (wake now duration)
  | rung {now : Nat} (stands : Stands now) (duration : Nat) : Stands (ring now duration)

/-- The clock can stand at the whole milliseconds, and nowhere else. -/
theorem stands_iff
    (instant : Nat) :
    Stands instant ↔ Duration.millisecond ∣ instant := by
  constructor
  · intro stands
    cases stands with
    | start => exact Nat.dvd_zero _
    | slept => exact dvd_roundUp _
    | rung => exact dvd_roundUp _
  · rintro ⟨count, rfl⟩
    induction count with
    | zero => exact .start
    | succ count inductionHypothesis =>
      have woken := Stands.slept inductionHypothesis Duration.millisecond
      rwa [wake_eq (Nat.dvd_mul_right _ _) (Nat.dvd_refl _), slept_eq (by decide)] at woken

end Fleet.Clock
