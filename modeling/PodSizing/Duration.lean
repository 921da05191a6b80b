/-!
# Durations

Lengths of time in nanoseconds, and their text in messages: the largest unit among seconds,
milliseconds, microseconds and nanoseconds that is not larger than the duration, with as many
decimal places as needed.
-/

namespace PodSizing

/-- A length of time. -/
structure Duration where
  nanos : Nat
  deriving DecidableEq, Repr

namespace Duration

/-- A number of seconds. -/
def ofSeconds (seconds : Nat) : Duration := ⟨seconds * 1000000000⟩

/-- A number of milliseconds. -/
def ofMillis (millis : Nat) : Duration := ⟨millis * 1000000⟩

instance : Add Duration := ⟨fun first second => ⟨first.nanos + second.nanos⟩⟩

/-- The time from the second duration to the first; zero if there is none. -/
instance : Sub Duration := ⟨fun first second => ⟨first.nanos - second.nanos⟩⟩

instance : LE Duration := ⟨fun first second => first.nanos ≤ second.nanos⟩

instance (first second : Duration) : Decidable (first ≤ second) :=
  inferInstanceAs (Decidable (first.nanos ≤ second.nanos))

instance : Min Duration := ⟨fun first second => if first ≤ second then first else second⟩

/-- No time at all. -/
def zero : Duration := ⟨0⟩

/-- Whole milliseconds, rounded down. -/
def wholeMillis (duration : Duration) : Nat := duration.nanos / 1000000

/-- Whole seconds, rounded down. -/
def wholeSeconds (duration : Duration) : Nat := duration.nanos / 1000000000

/-- `value / scale` with as many decimal places as needed, where `scale` is a power of ten with
`places` zeros. -/
def decimalText (value places : Nat) : String :=
  let scale := Nat.pow 10 places
  let fraction := (toString (scale + value % scale)).toList.drop 1
  let shown := (fraction.reverse.dropWhile (· == '0')).reverse
  let whole := toString (value / scale)
  if shown.isEmpty then whole else whole ++ "." ++ String.ofList shown

/-- The text of a duration in messages. -/
def toText (duration : Duration) : String :=
  let nanos := duration.nanos
  if 1000000000 ≤ nanos then decimalText nanos 9 ++ "s"
  else if 1000000 ≤ nanos then decimalText nanos 6 ++ "ms"
  else if 1000 ≤ nanos then decimalText nanos 3 ++ "µs"
  else decimalText nanos 0 ++ "ns"

end Duration

end PodSizing
