/-!
# Durations

Spans of time with nanosecond resolution, and their short text.

## Main definitions

* `Duration` — a span of time.
* `Duration.text` — the span in the largest unit that it reaches, without trailing zeros:
  `0ns`, `1.5µs`, `10ms`, `1.000000001s`.
* `Instant` — a point on the clock that deadlines are set by.
-/

namespace SmtpLink

/-- A span of time. -/
structure Duration where
  /-- The length in nanoseconds. -/
  nanos : Nat
deriving DecidableEq, Repr

namespace Duration

/-- Nanoseconds in a second. -/
def nanosPerSecond : Nat := 1000000000

/-- A span of whole seconds and further nanoseconds. -/
def ofParts (seconds nanos : Nat) : Duration := ⟨seconds * nanosPerSecond + nanos⟩

/-- A span of whole seconds. -/
def ofSeconds (seconds : Nat) : Duration := ofParts seconds 0

/-- A span of whole milliseconds. -/
def ofMillis (millis : Nat) : Duration := ⟨millis * 1000000⟩

/-- The whole seconds of a span. -/
def seconds (d : Duration) : Nat := d.nanos / nanosPerSecond

/-- The nanoseconds of a span beyond its whole seconds. -/
def subsecNanos (d : Duration) : Nat := d.nanos % nanosPerSecond

/-- The whole milliseconds of a span. -/
def millis (d : Duration) : Nat := d.nanos / 1000000

/-- The multiple of ten seconds next to a span, in seconds. A span half way between two goes to
the lower one. -/
def nearestTens (d : Duration) : Nat :=
  (d.nanos + (5 * nanosPerSecond - 1)) / (10 * nanosPerSecond) * 10

/-- The decimal places of `part / 10 ^ places`, without trailing zeros. -/
def fraction (places part : Nat) : List Char :=
  let digits := (toString part).toList
  let padded := List.replicate (places - digits.length) '0' ++ digits
  (padded.reverse.dropWhile (· == '0')).reverse

/-- Writes `d` as a decimal number of units of `10 ^ places` nanoseconds. -/
def inUnit (d : Duration) (places : Nat) (unit : String) : String :=
  let whole := toString (d.nanos / Nat.pow 10 places)
  match fraction places (d.nanos % Nat.pow 10 places) with
  | [] => whole ++ unit
  | digits => whole ++ "." ++ String.ofList digits ++ unit

/-- The text of a span: a decimal number of seconds, milliseconds, microseconds or
nanoseconds, in the largest of these units that the span reaches. -/
def text (d : Duration) : String :=
  if Nat.pow 10 9 ≤ d.nanos then d.inUnit 9 "s"
  else if Nat.pow 10 6 ≤ d.nanos then d.inUnit 6 "ms"
  else if Nat.pow 10 3 ≤ d.nanos then d.inUnit 3 "µs"
  else d.inUnit 0 "ns"

end Duration

/-- A point in time, in nanoseconds on a clock that never goes back. -/
structure Instant where
  /-- The reading of the clock. -/
  nanos : Int
deriving DecidableEq, Repr

namespace Instant

/-- The instant a span later. -/
def after (t : Instant) (d : Duration) : Instant := ⟨t.nanos + d.nanos⟩

/-- One instant is not later than another. -/
instance : LE Instant := ⟨fun s t => s.nanos ≤ t.nanos⟩

instance (s t : Instant) : Decidable (s ≤ t) := inferInstanceAs (Decidable (s.nanos ≤ t.nanos))

end Instant

end SmtpLink
