import JobNotice.Calendar.Instant

/-!
# Instants on a line

An instant outside leap seconds is a whole number of nanoseconds away from the start of 1970. On
that line the order of instants is the order of numbers, and the seconds between two instants are
their distance rounded down.

Leap seconds have no place of their own on the line: their nanoseconds are those of the second that
follows. So every statement here leaves them out.

## Main definitions

* `Calendar.Instant.nanoseconds` — the place of an instant on the line

## Main results

* `Calendar.Instant.seconds_eq` — the second an instant lies in
* `Calendar.Instant.before_iff` — the order of instants
* `Calendar.Instant.elapsed_eq_iff` — the whole seconds between two instants
-/

namespace JobNotice.Calendar.Instant

/-- Nanoseconds from the start of 1970. -/
def nanoseconds (t : Instant) : Int := t.seconds * nanosPerSecond + t.nanos

variable {s t : Instant}

theorem nanos_lt_of_not_leap (h : t.inLeapSecond = false) : t.nanos < 1000000000 := by
  simpa [inLeapSecond] using h

/-- The second of an instant is its place rounded down. -/
theorem seconds_eq (h : t.inLeapSecond = false) : t.seconds = t.nanoseconds / nanosPerSecond := by
  have hnanos := nanos_lt_of_not_leap h
  simp only [nanoseconds, nanosPerSecond]
  omega

/-- **The earlier of two instants lies before on the line.** -/
theorem before_iff (hs : s.inLeapSecond = false) (ht : t.inLeapSecond = false) :
    s.before t = true ↔ s.nanoseconds < t.nanoseconds := by
  have hs' := nanos_lt_of_not_leap hs
  have ht' := nanos_lt_of_not_leap ht
  have hsecond := s.second_lt
  have hsecond' := t.second_lt
  simp only [before, nanoseconds, seconds, nanosPerSecond, Bool.or_eq_true, Bool.and_eq_true,
    decide_eq_true_eq, beq_iff_eq]
  omega

theorem secondsBetween_eq (hs : s.inLeapSecond = false) (ht : t.inLeapSecond = false) :
    secondsBetween s t = (t.nanoseconds - s.nanoseconds) / nanosPerSecond := by
  have hs' := nanos_lt_of_not_leap hs
  have ht' := nanos_lt_of_not_leap ht
  simp only [secondsBetween, nanoseconds, seconds, nanosPerSecond]
  rw [if_neg (by omega), if_neg (by omega)]
  omega

/-- **The whole seconds from one instant to a later one**: as many as fit between them. -/
theorem elapsed_eq_iff (hs : s.inLeapSecond = false) (ht : t.inLeapSecond = false)
    (h : s.nanoseconds ≤ t.nanoseconds) (n : Nat) :
    elapsed s t = n ↔ (n : Int) * nanosPerSecond ≤ t.nanoseconds - s.nanoseconds ∧
      t.nanoseconds - s.nanoseconds < (n + 1) * nanosPerSecond := by
  rw [elapsed, secondsBetween_eq hs ht]
  simp only [nanosPerSecond]
  omega

end JobNotice.Calendar.Instant
