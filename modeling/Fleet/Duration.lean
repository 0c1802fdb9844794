import Fleet.Text.Decimal

/-!
# Durations

A duration is a natural number of nanoseconds. The longest one has as many seconds as a word of
64 bits holds and the last nanosecond before the next second; products stop there. Points in time
are measured in the same unit, so the arithmetic of time is the arithmetic of `Nat`.
-/

namespace Fleet.Duration

/-- One microsecond. -/
def microsecond : Nat := 1000

/-- One millisecond. -/
def millisecond : Nat := 1000000

/-- One second. -/
def second : Nat := 1000000000

/-- A number of seconds. -/
def ofSeconds (count : Nat) : Nat := count * second

/-- A number of milliseconds. -/
def ofMilliseconds (count : Nat) : Nat := count * millisecond

/-- The longest duration. -/
def longest : Nat := ofSeconds Text.largest64 + (second - 1)

/-- A duration repeated a number of times, stopping at the longest. -/
def repeated (duration : Nat) (times : Nat) : Nat :=
  min longest (duration * times)

/-- A number of units with its fraction of at most the given digits, trailing zeros left out. -/
def describeIn
    (unitName : String)
    (unit : Nat)
    (digits : Nat)
    (duration : Nat) :
    String :=
  let fraction := (Text.padded digits (duration % unit)).toList
  let shown := (fraction.reverse.dropWhile (· == '0')).reverse
  let point := if duration % unit == 0 then [] else '.' :: shown
  toString (duration / unit) ++ String.ofList point ++ unitName

/-- A duration in the largest unit of which it has at least one. -/
def describe (duration : Nat) : String :=
  if duration ≥ second then describeIn "s" second 9 duration
  else if duration ≥ millisecond then describeIn "ms" millisecond 6 duration
  else if duration ≥ microsecond then describeIn "µs" microsecond 3 duration
  else describeIn "ns" 1 0 duration

/-- A product below the longest duration is exact. -/
theorem repeated_eq
    {duration : Nat}
    {times : Nat}
    (fits : duration * times ≤ longest) :
    repeated duration times = duration * times := by
  simp only [repeated]
  omega

end Fleet.Duration
