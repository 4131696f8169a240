import JobNotice.Calendar.Date

/-!
# Instants of universal time

An instant is a day, a second of that day and a fraction in nanoseconds. A leap second is the
60th second of a minute; it is represented as the second before it with a fraction of one second or
more. Such a fraction can follow any other second as well. It is out of place there: the text of
such an instant is that of another one, which it becomes when the text is read. Instants lie between
the years -262143 and 262142.

## Main definitions

* `Calendar.Instant`
* `Calendar.Instant.IsRegular` — leap seconds are where they belong
* `Calendar.Instant.settled` — the regular instant that is written like a given one
* `Calendar.Instant.before` — the order of instants
* `Calendar.Instant.elapsed` — whole seconds from one instant to a later one
* `Calendar.Instant.year`
-/

namespace JobNotice.Calendar

/-- The nanoseconds of a second. -/
abbrev nanosPerSecond : Nat := 1000000000

/-- The first day an instant can lie in, 1 January -262143. -/
abbrev firstDay : Int := -96465292

/-- The last day an instant can lie in, 31 December 262142. -/
abbrev lastDay : Int := 95026236

/-- A point of universal time. What the fraction has beyond a second lies in a second of its own,
behind the one that `second` counts. -/
structure Instant where
  day : Int
  second : Nat
  nanos : Nat
  first_le_day : firstDay ≤ day
  day_le_last : day ≤ lastDay
  second_lt : second < 86400
  nanos_lt : nanos < 2 * nanosPerSecond
  deriving DecidableEq

namespace Instant

instance : Inhabited Instant :=
  ⟨⟨0, 0, 0, by decide, by decide, by decide, by decide⟩⟩

/-- Whether the instant lies in a leap second. -/
def inLeapSecond (t : Instant) : Bool := nanosPerSecond ≤ t.nanos

/-- Only the last second of a minute is followed by a leap second. -/
def IsRegular (t : Instant) : Prop := nanosPerSecond ≤ t.nanos → t.second % 60 = 59

instance (t : Instant) : Decidable t.IsRegular := by unfold IsRegular; infer_instance

/-- An instant that is not regular does not lie in the last second of its day. -/
theorem second_succ_lt {t : Instant} (h : ¬ t.IsRegular) : t.second + 1 < 86400 := by
  have hsecond := t.second_lt
  have hlast : t.second % 60 ≠ 59 := fun hlast => h fun _ => hlast
  omega

/-- The instant with a leap second that is out of place counted as the next second. -/
def settled (t : Instant) : Instant :=
  if h : t.IsRegular then t
  else
    { t with
      second := t.second + 1
      nanos := t.nanos - nanosPerSecond
      second_lt := second_succ_lt h
      nanos_lt := Nat.lt_of_le_of_lt (Nat.sub_le _ _) t.nanos_lt }

/-- The number of a second, leap seconds not counted, from the start of 1970. -/
def seconds (t : Instant) : Int := t.day * 86400 + t.second

/-- An instant lies before another by day, then second, then fraction. -/
def before (s t : Instant) : Bool :=
  s.day < t.day || (s.day == t.day && (s.second < t.second ||
    (s.second == t.second && s.nanos < t.nanos)))

/-- The year of an instant's date. -/
def year (t : Instant) : Int := (Date.ofDay t.day).year

/-- Whole seconds from `s` to `t`, rounded down. The leap second in which the earlier of two
times of day lies is counted, whichever of the two it belongs to. -/
def secondsBetween (s t : Instant) : Int :=
  let leap : Int :=
    if s.second < t.second ∧ nanosPerSecond ≤ s.nanos then 1
    else if t.second < s.second ∧ nanosPerSecond ≤ t.nanos then -1
    else 0
  (t.day - s.day) * 86400 + ((t.second : Int) - s.second) + leap +
    ((t.nanos : Int) - s.nanos) / nanosPerSecond

/-- Whole seconds from `s` to `t`, none when there is less than that. -/
def elapsed (s t : Instant) : Nat := (secondsBetween s t).toNat

end Instant

end JobNotice.Calendar
