import DrainGuard.Notice.Calendar

/-!
# Instants and spans

An instant counts seconds from 1970 and nanoseconds within the second. A leap second belongs to
the second before it: its instants have `10^9` nanoseconds or more.

* `Moment.compare`: the order of instants.
* `Moment.since`: the span from an earlier instant; a leap second counts where it lies between
  the two times of day.
* `Span.text`: a span as `P0D` or `PT…S`.
-/

namespace DrainGuard

/-- Nanoseconds of a second. -/
def nanosPerSecond : Nat := 1000000000

/-- An instant of coordinated universal time. -/
structure Moment where
  /-- Seconds since 1970-01-01T00:00:00, leap seconds not counted. -/
  seconds : Int
  /-- Nanoseconds within the second, `10^9` or more within a leap second. -/
  nanos : Nat
  deriving DecidableEq

/-- A length of time. -/
structure Span where
  /-- Whole seconds, rounded down. -/
  seconds : Int
  /-- Nanoseconds beyond the whole seconds. -/
  nanos : Nat
  deriving DecidableEq

namespace Span

/-- No time. -/
def zero : Span := ⟨0, 0⟩

/-- All of a span in nanoseconds. -/
def total (s : Span) : Int := s.seconds * nanosPerSecond + s.nanos

/-- The span of a number of nanoseconds. -/
def ofNanos (n : Int) : Span := ⟨n / nanosPerSecond, (n % nanosPerSecond).toNat⟩

/-- The span is not negative. -/
def clamp (s : Span) : Span := if s.total < 0 then zero else s

/-- Digits of a fraction, `places` wide, without the zeros at the end. -/
def fraction (places n : Nat) : List Char :=
  let ds := Nat.toDigits 10 n
  let padded := List.replicate (places - ds.length) '0' ++ ds
  (padded.reverse.dropWhile (· = '0')).reverse

/-- A span that is not negative, as text. -/
def text (s : Span) : String :=
  if s.seconds = 0 ∧ s.nanos = 0 then "P0D"
  else "PT" ++ toString s.seconds ++
    (if s.nanos = 0 then "" else "." ++ String.ofList (fraction 9 s.nanos)) ++ "S"

end Span

namespace Moment

/-- Seconds of a day. -/
def secondsPerDay : Nat := 86400

/-- The instant exists: only the last second of a minute is followed by a leap second. -/
def Valid (m : Moment) : Prop :=
  m.nanos < 2 * nanosPerSecond ∧ (nanosPerSecond ≤ m.nanos → m.seconds % 60 = 59)

instance (m : Moment) : Decidable m.Valid := by unfold Valid; infer_instance

/-- The day of an instant, counted from 1970-01-01. -/
def day (m : Moment) : Int := m.seconds / secondsPerDay

/-- The second of the day of an instant. -/
def secondOfDay (m : Moment) : Int := m.seconds % secondsPerDay

/-- Earlier, same, later. -/
def compare (a b : Moment) : Ordering :=
  (Ord.compare a.seconds b.seconds).then (Ord.compare a.nanos b.nanos)

/-- Earlier or the same. -/
def le (a b : Moment) : Bool := a.compare b != .gt

/-- The leap second, if any, between two times of day that the seconds do not count. -/
def leapBetween (a b : Moment) : Int :=
  if b.secondOfDay < a.secondOfDay ∧ nanosPerSecond ≤ b.nanos then 1
  else if a.secondOfDay < b.secondOfDay ∧ nanosPerSecond ≤ a.nanos then -1
  else 0

/-- The span from `b` to `a`. -/
def since (a b : Moment) : Span :=
  Span.ofNanos ((a.seconds - b.seconds + leapBetween a b) * nanosPerSecond +
    (a.nanos - b.nanos : Int))

end Moment

end DrainGuard
